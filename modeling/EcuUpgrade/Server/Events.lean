import EcuUpgrade.Server.Effects
import EcuUpgrade.Server.Responses

/-!
# What a request asks the application for

A service reads the events it emits from the request, before anything else is known of it. What an
evaluation has emitted are the first of these events, and if the answer is positive, all of them.

## Main definitions

* `Sys.emitted`: the events emitted so far.
* `Sys.asks`: the events that a request asks for.
* `Tells`: the events of an evaluation are the first of some events, and all if it is positive.

## Main results

* `UDSService.call_tells`, `ServerStep.tells`.
-/

namespace EcuUpgrade

open ResponseCode

/-! ### Events -/

/-- The event that an effect is the emission of. -/
def Effect.event? : Effect → Option UDSServerEvent
  | .emit ev => some ev
  | _ => none

/-- An effect that is not an event. -/
abbrev Effect.Quiet (e : Effect) : Prop := e.event? = none

/-- The events emitted so far. -/
def Sys.emitted (s : Sys) : List UDSServerEvent := s.log.filterMap Effect.event?

/-- The events that the request under evaluation asks for. A seed for the level that is granted
already is answered without the application. -/
def Sys.asks (s : Sys) : UDSService → List UDSServerEvent
  | .diagnosticSessionControl => [.diagSessCtrl (s.srv.r.recvBuf 1 &&& 0x4F)]
  | .ecuReset => [.ecuReset (s.srv.r.recvBuf 1 &&& 0x3F)]
  | .readDataByIdentifier => (List.range' 0 (s.srv.r.recvLen / 2 % 256)).map fun did =>
      .readDataByIdent (word16 (s.srv.r.recvBuf (1 + did * 2)) (s.srv.r.recvBuf (1 + did * 2 + 1)))
  | .readMemoryByAddress => match decodeAddressAndLength s.srv.r 1 with
    | .error _ => []
    | .ok (address, length) => [.readMemByAddr address length]
  | .securityAccess =>
    let subFunction := s.srv.r.recvBuf 1
    let record := s.srv.r.recvSlice 2 (subSize16 s.srv.r.recvLen 2)
    if subFunction % 2 = 0 then [.secAccessValidateKey (subFunction - 1) record]
    else if subFunction = s.srv.securityLevel then []
    else [.secAccessRequestSeed subFunction record]
  | .communicationControl => [.commCtrl (s.srv.r.recvBuf 1 &&& 0x7F) (s.srv.r.recvBuf 2)]
  | .writeDataByIdentifier => [.writeDataByIdent (word16 (s.srv.r.recvBuf 1) (s.srv.r.recvBuf 2))
      (s.srv.r.recvSlice 3 (subSize16 s.srv.r.recvLen 3))]
  | .routineControl => [.routineCtrl (s.srv.r.recvBuf 1 &&& 0x7F)
      (word16 (s.srv.r.recvBuf 2) (s.srv.r.recvBuf 3))
      (s.srv.r.recvSlice 4 (subSize16 s.srv.r.recvLen 4))]
  | .requestDownload => match decodeAddressAndLength s.srv.r 2 with
    | .error _ => []
    | .ok (address, size) => [.requestDownload address size (s.srv.r.recvBuf 1)]
  | .requestUpload => match decodeAddressAndLength s.srv.r 2 with
    | .error _ => []
    | .ok (address, size) => [.requestUpload address size (s.srv.r.recvBuf 1)]
  | .transferData => [.transferData s.blockData]
  | .requestTransferExit =>
    [.requestTransferExit (s.srv.r.recvSlice 1 (subSize16 s.srv.r.recvLen 1))]
  | .requestFileTransfer => match fileTransferArgs.run s.srv.r.recvBuf with
    | .error _ => []
    | .ok args => [.requestFileTransfer args]
  | .testerPresent => []
  | .controlDTCSetting => []

/-- Between two states, certain events were emitted. -/
def Emits (evs : List UDSServerEvent) (s t : Sys) : Prop := t.emitted = s.emitted ++ evs

/-- The events of an evaluation are the first of `evs`, and all of them if it is positive. -/
def Tells (evs : List UDSServerEvent) (s : Sys) (c : ResponseCode) (t : Sys) : Prop :=
  ∃ emitted, Emits emitted s t ∧ emitted <+: evs ∧ (c = kPositiveResponse → emitted = evs)

variable {B : Build} {env : Env} {s t u : Sys} {c : ResponseCode} {ev : UDSServerEvent}
  {evs evs' : List UDSServerEvent}

theorem Emits.trans (h : Emits evs s t) (h' : Emits evs' t u) : Emits (evs ++ evs') s u := by
  unfold Emits at *
  rw [h', h, List.append_assoc]

theorem emits_emitEvent (s : Sys) (ev : UDSServerEvent) : Emits [ev] s (s.emitEvent ev) := by
  simp [Emits, Sys.emitted, Sys.emitEvent, Sys.emit, Effect.event?]

/-- Effects of the application are not events. -/
theorem Appends.emits (h : Appends Effect.Quiet s t) : Emits [] s t := by
  obtain ⟨effects, hlog, hnone⟩ := h
  unfold Emits Sys.emitted
  rw [hlog, List.filterMap_append, List.filterMap_eq_nil_iff.2 hnone]

/-- An event, without effects of its handler. -/
theorem emits_of_log (hlog : t.log = (s.emitEvent ev).log) : Emits [ev] s t := by
  have hevent := emits_emitEvent s ev
  unfold Emits Sys.emitted at *
  rw [hlog, hevent]

/-- An event, with what its handler does. -/
theorem emits_of_handler (hlog : u.log = (s.emitEvent ev).log)
    (h : Appends Effect.Quiet u t) : Emits [ev] s t :=
  (emits_of_log hlog).trans h.emits

/-- A refusal before any event. -/
theorem tells_of_log (hc : c ≠ kPositiveResponse) (hlog : t.log = s.log) : Tells evs s c t :=
  ⟨[], by simp [Emits, Sys.emitted, hlog], List.nil_prefix, fun h => absurd h hc⟩

theorem Emits.tells (h : Emits evs s t) : Tells evs s c t :=
  ⟨evs, h, List.prefix_refl evs, fun _ => rfl⟩

theorem tells_nil_of_log (hlog : t.log = s.log) : Tells [] s c t :=
  ⟨[], by simp [Emits, Sys.emitted, hlog], List.nil_prefix, fun _ => rfl⟩

/-! ### Services -/

theorem diagnosticSessionControl0x10_tells :
    Tells (s.asks .diagnosticSessionControl) s (diagnosticSessionControl0x10 env s).1
      (diagnosticSessionControl0x10 env s).2 := by
  unfold diagnosticSessionControl0x10
  dsimp only [handleDiagSessCtrl]
  split_ifs
  · exact tells_of_log (by simp) rfl
  · simp_all
  all_goals exact Emits.tells (emits_of_log rfl)

theorem ecuReset0x11_tells :
    Tells (s.asks .ecuReset) s (ecuReset0x11 env s).1 (ecuReset0x11 env s).2 := by
  unfold ecuReset0x11
  dsimp only [handleEcuReset]
  split_ifs
  · exact tells_of_log (by simp) rfl
  all_goals exact Emits.tells (emits_of_log rfl)

/-- **The loop over the identifiers** asks for one after the other. -/
theorem readDataLoop_tells (B : Build) (env : Env) (s : Sys) (n did : ℕ) (hdid : did + n ≤ 256) :
    Tells ((List.range' did n).map fun did => .readDataByIdent
        (word16 (s.srv.r.recvBuf (1 + did * 2)) (s.srv.r.recvBuf (1 + did * 2 + 1))))
      s (readDataLoop B env n did s).1 (readDataLoop B env n did s).2 := by
  induction n generalizing did s with
  | zero => exact tells_nil_of_log rfl
  | succ n ih =>
    have hidx : (1 + did * 2) % 2 ^ 16 = 1 + did * 2 := Nat.mod_eq_of_lt (by omega)
    unfold readDataLoop
    dsimp only
    rw [hidx, List.range'_succ, List.map_cons]
    set dataId := word16 (s.srv.r.recvBuf (1 + did * 2)) (s.srv.r.recvBuf (1 + did * 2 + 1))
    set v := (s.setSend (s.srv.r.sendBuf ++ [(dataId >>> 8).toUInt8, dataId.toUInt8])).emitEvent
      (.readDataByIdent dataId) with hv
    split_ifs with hfull hrefused
    · exact tells_of_log (by simp) rfl
    · have hemits : Emits [.readDataByIdent dataId] s (handleReadDataByIdent B env v dataId).2 :=
        emits_of_handler rfl (handleReadDataByIdent_appends dataId)
      exact ⟨_, hemits, ⟨_, rfl⟩, fun h => absurd h hrefused⟩
    · have hemits : Emits [.readDataByIdent dataId] s (handleReadDataByIdent B env v dataId).2 :=
        emits_of_handler rfl (handleReadDataByIdent_appends dataId)
      have hbuf : (handleReadDataByIdent B env v dataId).2.srv.r.recvBuf = s.srv.r.recvBuf :=
        (handleReadDataByIdent_same (k := .request) dataId).1
      obtain ⟨rest, hrest, hprefix, hall⟩ :=
        ih (handleReadDataByIdent B env v dataId).2 (did + 1) (by omega)
      rw [hbuf] at hprefix hall
      exact ⟨_, hemits.trans hrest, List.cons_prefix_cons.2 ⟨rfl, hprefix⟩,
        fun h => congrArg _ (hall h)⟩

theorem readDataByIdentifier0x22_tells :
    Tells (s.asks .readDataByIdentifier) s (readDataByIdentifier0x22 B env s).1
      (readDataByIdentifier0x22 B env s).2 := by
  have hloop : Tells (s.asks .readDataByIdentifier)
      (s.setSend [responseSidOf kSIDReadDataByIdentifier]) _ _ :=
    readDataLoop_tells B env (s.setSend [responseSidOf kSIDReadDataByIdentifier])
      (s.srv.r.recvLen / 2 % 256) 0 (by omega)
  unfold readDataByIdentifier0x22
  dsimp only
  split_ifs
  · exact tells_of_log (by simp) rfl
  · exact tells_of_log (by simp) rfl
  · exact hloop

theorem readMemoryByAddress0x23_tells :
    Tells (s.asks .readMemoryByAddress) s (readMemoryByAddress0x23 s).1
      (readMemoryByAddress0x23 s).2 := by
  unfold readMemoryByAddress0x23 Sys.asks
  dsimp only
  cases hdecode : decodeAddressAndLength s.srv.r 1 with
  | error err =>
    dsimp only
    split_ifs
    · exact tells_of_log (by simp) rfl
    · exact tells_of_log (decodeAddressAndLength_negative hdecode) rfl
  | ok p =>
    dsimp only
    split_ifs
    · exact tells_of_log (by simp) rfl
    all_goals exact Emits.tells (emits_of_log rfl)

theorem sendKey0x27_tells (subFunction : UInt8) (record : Bytes) :
    Tells [.secAccessValidateKey (subFunction - 1) record] s
      (sendKey0x27 env s subFunction record).1 (sendKey0x27 env s subFunction record).2 := by
  unfold sendKey0x27
  dsimp only
  split_ifs <;> exact Emits.tells (emits_of_log rfl)

theorem requestSeed0x27_tells (subFunction : UInt8) (record : Bytes) :
    Tells (if subFunction = s.srv.securityLevel then []
        else [.secAccessRequestSeed subFunction record]) s
      (requestSeed0x27 env s subFunction record).1
      (requestSeed0x27 env s subFunction record).2 := by
  have hseed : Emits [.secAccessRequestSeed subFunction record] s (handleRequestSeed env
      (s.emitEvent (.secAccessRequestSeed subFunction record))).2 :=
    emits_of_handler rfl handleRequestSeed_appends
  unfold requestSeed0x27
  dsimp only
  split_ifs
  · exact tells_nil_of_log (log_safeCopy s _)
  all_goals exact Emits.tells hseed

theorem securityAccess0x27_tells :
    Tells (s.asks .securityAccess) s (securityAccess0x27 env s).1
      (securityAccess0x27 env s).2 := by
  set u := s.setSend [responseSidOf kSIDSecurityAccess, s.srv.r.recvBuf 1] with hu
  set record := s.srv.r.recvSlice 2 (subSize16 s.srv.r.recvLen 2) with hrecord
  unfold securityAccess0x27
  dsimp only
  split_ifs with hreserved hboot hfail hkey
  · exact tells_of_log (by simp) rfl
  · exact tells_of_log (by simp) rfl
  · exact tells_of_log (by simp) rfl
  · have hasks : s.asks .securityAccess =
        [.secAccessValidateKey (s.srv.r.recvBuf 1 - 1) record] := if_pos hkey
    rw [hasks]
    exact sendKey0x27_tells (s := u) (s.srv.r.recvBuf 1) record
  · have hasks : s.asks .securityAccess = if s.srv.r.recvBuf 1 = s.srv.securityLevel then []
        else [.secAccessRequestSeed (s.srv.r.recvBuf 1) record] := if_neg hkey
    rw [hasks]
    exact requestSeed0x27_tells (s := u) (s.srv.r.recvBuf 1) record

theorem communicationControl0x28_tells :
    Tells (s.asks .communicationControl) s (communicationControl0x28 s).1
      (communicationControl0x28 s).2 := by
  unfold communicationControl0x28
  dsimp only [handleCommCtrl]
  split_ifs
  · exact tells_of_log (by simp) rfl
  all_goals exact Emits.tells (emits_of_log rfl)

theorem writeDataByIdentifier0x2E_tells :
    Tells (s.asks .writeDataByIdentifier) s (writeDataByIdentifier0x2E B env s).1
      (writeDataByIdentifier0x2E B env s).2 := by
  have hwrite (dataId : UInt16) (data : Bytes) : Emits [.writeDataByIdent dataId data] s
      (handleWriteDataByIdent B env (s.emitEvent (.writeDataByIdent dataId data)) dataId data).2 :=
    emits_of_handler rfl
      (handleWriteDataByIdent_appends (P := Effect.Quiet) rfl rfl (fun _ => rfl) rfl rfl dataId
        data)
  unfold writeDataByIdentifier0x2E
  dsimp only
  split_ifs
  · exact tells_of_log (by simp) rfl
  all_goals exact Emits.tells (hwrite _ _)

theorem routineControl0x31_tells (h : routineControl0x31 B env s = .ok (c, t)) :
    Tells (s.asks .routineControl) s c t := by
  unfold routineControl0x31 at h
  dsimp only at h
  split_ifs at h
  · obtain ⟨rfl, rfl⟩ := Prod.mk.inj (Except.ok.inj h)
    exact tells_of_log (by simp) rfl
  · split at h
    · cases h
    · next c' u hroutine =>
      have hquiet := handleRoutineCtrl_appends (P := Effect.Quiet) rfl (fun _ => rfl)
        (fun _ _ => rfl) hroutine
      have hemits : Emits (s.asks .routineControl) s u := emits_of_handler rfl hquiet
      split_ifs at h
      all_goals
        obtain ⟨rfl, rfl⟩ := Prod.mk.inj (Except.ok.inj h)
        exact Emits.tells hemits
  · obtain ⟨rfl, rfl⟩ := Prod.mk.inj (Except.ok.inj h)
    exact tells_of_log (by simp) rfl

/-- The common part of downloads and uploads. -/
theorem requestTransfer_tells {sid : UInt8} {event : ℕ → ℕ → UInt8 → UDSServerEvent}
    {handler : ResponseCode} :
    Tells (match decodeAddressAndLength s.srv.r 2 with
        | .error _ => []
        | .ok (address, size) => [event address size (s.srv.r.recvBuf 1)]) s
      (requestTransfer B s sid event handler).1 (requestTransfer B s sid event handler).2 := by
  unfold requestTransfer
  cases hdecode : decodeAddressAndLength s.srv.r 2 with
  | error err =>
    dsimp only
    split_ifs
    · exact tells_of_log (by simp) rfl
    · exact tells_of_log (by simp) rfl
    · exact tells_of_log (decodeAddressAndLength_negative hdecode) rfl
  | ok p =>
    dsimp only
    split_ifs
    · exact tells_of_log (by simp) rfl
    · exact tells_of_log (by simp) rfl
    all_goals exact Emits.tells (emits_of_log rfl)

theorem transferData0x36_tells (hs : s.srv.rcrrp = false) :
    Tells (s.asks .transferData) s (transferData0x36 env s).1 (transferData0x36 env s).2 := by
  have hdata (bs : Bytes) : Emits [.transferData s.blockData] s (handleTransferData env
      ((s.nextBlock.setSend bs).emitEvent (.transferData s.blockData)) s.blockData).2 :=
    emits_of_handler rfl (handleTransferData_appends (P := Effect.Quiet) rfl (fun _ _ => rfl) _)
  have hblock : s.nextBlock.srv.r.recvSlice 2 (subSize16 s.srv.r.recvLen 2) = s.blockData := rfl
  unfold transferData0x36 transferDataFail
  simp only [hs, Bool.false_eq_true, if_false]
  split_ifs
  · exact tells_of_log (by simp) rfl
  · exact tells_of_log (by simp) rfl
  · exact tells_of_log (by simp) rfl
  · exact tells_of_log (by simp) rfl
  · rw [hblock]
    split <;> exact Emits.tells (hdata _)

theorem requestTransferExit0x37_tells (h : requestTransferExit0x37 s = .ok (c, t)) :
    Tells (s.asks .requestTransferExit) s c t := by
  rcases requestTransferExit0x37_cases s with ⟨-, heq⟩ | ⟨-, -, heq⟩ | ⟨path, -, -, heq⟩
  · obtain ⟨rfl, rfl⟩ := Prod.mk.inj (Except.ok.inj (h.symm.trans heq))
    exact tells_of_log (by simp) rfl
  · cases h.symm.trans heq
  · obtain ⟨rfl, rfl⟩ := Prod.mk.inj (Except.ok.inj (h.symm.trans heq))
    have hemits : Emits [.requestTransferExit (s.srv.r.recvSlice 1 (subSize16 s.srv.r.recvLen 1))] s
        (s.closeTransfer path) := by
      simp [Emits, Sys.emitted, Sys.closeTransfer, Sys.emitEvent, Sys.emit, Sys.setSend,
        Sys.setFwFile, Sys.resetTransfer, Effect.event?]
    exact hemits.tells

theorem requestFileTransfer0x38_tells :
    Tells (s.asks .requestFileTransfer) s (requestFileTransfer0x38 B env s).1
      (requestFileTransfer0x38 B env s).2 := by
  rcases requestFileTransfer0x38_cases B env s with ⟨err, -, herr, heq⟩ | ⟨args, -, -, hrun, heq⟩
  · rw [heq]
    exact tells_of_log herr rfl
  · have hasks : s.asks .requestFileTransfer = [.requestFileTransfer args] := by
      unfold Sys.asks
      rw [hrun]
    rw [heq, hasks]
    split_ifs
    · refine Emits.tells ?_
      simp [Emits, Sys.emitted, Sys.openTransfer, Sys.emitEvent, Sys.emit, Sys.setSend,
        Sys.setFwFile, Sys.setFwFilename, Sys.setFile, Sys.startTransfer, Sys.resetTransfer,
        Effect.event?]
    · refine Emits.tells ?_
      simp [Emits, Sys.emitted, Sys.failToOpen, Sys.negativeResponse, Sys.emitEvent, Sys.emit,
        Sys.setSend, Sys.setFwFile, Sys.setFwFilename, Effect.event?]

/-- **A service tells the application what the request asks for**: the first of these events, and
all of them if the answer is positive. -/
theorem UDSService.call_tells (hs : s.srv.rcrrp = false) (service : UDSService)
    (h : service.call B env s = .ok (c, t)) : Tells (s.asks service) s c t := by
  cases service
  case routineControl => exact routineControl0x31_tells h
  case requestTransferExit => exact requestTransferExit0x37_tells h
  all_goals
    obtain ⟨rfl, rfl⟩ := Prod.mk.inj (Except.ok.inj h).symm
  case diagnosticSessionControl => exact diagnosticSessionControl0x10_tells
  case ecuReset => exact ecuReset0x11_tells
  case readDataByIdentifier => exact readDataByIdentifier0x22_tells
  case readMemoryByAddress => exact readMemoryByAddress0x23_tells
  case securityAccess => exact securityAccess0x27_tells
  case communicationControl => exact communicationControl0x28_tells
  case writeDataByIdentifier => exact writeDataByIdentifier0x2E_tells
  case requestDownload => exact requestTransfer_tells
  case requestUpload => exact requestTransfer_tells
  case transferData => exact transferData0x36_tells hs
  case requestFileTransfer => exact requestFileTransfer0x38_tells
  case testerPresent => exact (testerPresent0x3E_appends (P := Effect.Quiet)).emits.tells
  case controlDTCSetting => exact (controlDTCSetting0x85_appends (P := Effect.Quiet)).emits.tells

/-- **An exchange tells the application what its request asks for.** -/
theorem ServerStep.tells {x : Exchange} (hs : Settings s) (h : ServerStep B s x t)
    {service : UDSService} (hx : x.service = some service) :
    Tells ((s.receive B x.env x.req).asks service) s x.code t := by
  obtain ⟨u, hcall, ht⟩ := h.call_setSend hx
  have htells : Tells ((s.receive B x.env x.req).asks service) (s.receive B x.env x.req) x.code u :=
    service.call_tells (s := s.receive B x.env x.req) hs.rcrrp hcall
  rw [ht]
  exact htells

/-! ### Events that belong to requests -/

/-- An event is emitted for a request, not by a timer. -/
def UDSServerEvent.isRequested : UDSServerEvent → Bool
  | .sessionTimeout | .doScheduledReset _ => false
  | _ => true

/-- The events emitted for requests so far. -/
def Sys.requested (s : Sys) : List UDSServerEvent := s.emitted.filter UDSServerEvent.isRequested

theorem isRequested_of_mem_asks {service : UDSService} (h : ev ∈ s.asks service) :
    ev.isRequested = true := by
  cases service <;> unfold Sys.asks at h <;> dsimp only at h
  case readDataByIdentifier =>
    obtain ⟨did, -, rfl⟩ := List.mem_map.1 h
    rfl
  case securityAccess =>
    split_ifs at h <;> simp_all [UDSServerEvent.isRequested]
  all_goals
    try split at h
    all_goals simp_all [UDSServerEvent.isRequested]

theorem requested_of_log (hlog : t.log = s.log) : t.requested = s.requested := by
  rw [Sys.requested, Sys.emitted, hlog]
  rfl

theorem requested_emitEvent (s : Sys) (hev : ev.isRequested = false) :
    (s.emitEvent ev).requested = s.requested := by
  have hemitted : (s.emitEvent ev).emitted = s.emitted ++ [ev] := emits_emitEvent s ev
  rw [Sys.requested, hemitted, List.filter_append]
  simp [hev, Sys.requested]

/-- The timers emit events of their own. -/
theorem pollTimers_requested (B : Build) (env : Env) (s : Sys) :
    (s.pollTimers B env).requested = s.requested := by
  have htimeout : (if s.srv.sessionType ≠ kDefaultSession ∧
      udsTimeAfter (env.udsMillis 0) s.srv.s3SessionTimeoutTimer then
        (handleSessionTimeout (s.emitEvent .sessionTimeout)).2 else s).requested = s.requested := by
    split_ifs
    · exact requested_emitEvent s rfl
    · rfl
  have hreset (u : Sys) : (if u.srv.ecuResetScheduled ≠ 0 ∧
      udsTimeAfter (env.udsMillis 1) u.srv.ecuResetTimer then (handleDoScheduledReset B
        (u.emitEvent (.doScheduledReset u.srv.ecuResetScheduled))).2 else u).requested =
      u.requested := by
    split_ifs
    · have hemit : (u.emitEvent (.doScheduledReset u.srv.ecuResetScheduled)).requested =
          u.requested := requested_emitEvent u rfl
      rw [← hemit]
      unfold handleDoScheduledReset
      cases B.target with
      | t5 => simp [Sys.requested, Sys.emitted, Sys.emit, Sys.clearReset, Effect.event?]
      | test => rfl
    · rfl
  exact (hreset _).trans htimeout

/-- What the exchange of a request adds to these events. -/
theorem ServerStep.requested {x : Exchange} (hs : Settings s) (h : ServerStep B s x t)
    {service : UDSService} (hx : x.service = some service) :
    ∃ asked, t.requested = s.requested ++ asked ∧
      asked <+: (s.receive B x.env x.req).asks service ∧
      (x.code = kPositiveResponse → asked = (s.receive B x.env x.req).asks service) := by
  obtain ⟨asked, hemits, hfirst, hall⟩ := h.tells hs hx
  refine ⟨asked, ?_, hfirst, hall⟩
  have hrequested : asked.filter UDSServerEvent.isRequested = asked :=
    List.filter_eq_self.2 fun ev hev => isRequested_of_mem_asks (hfirst.subset hev)
  rw [Sys.requested, hemits, List.filter_append, hrequested]
  rfl

end EcuUpgrade
