import EcuUpgrade.Server.Polls

/-!
# The form of responses

A service leaves a positive response that begins with its identifier plus `0x40`, or the negative
response to its code. `ReadDataByIdentifier` and `RoutineControl` append to a response that is
already begun; what they began is overwritten when they fail, and what they copy is bounded by
`safe_copy`.

## Main definitions

* `Formed`: the form of what a service leaves in the send buffer.
* `ResponseForm`, `HasForm`: the three forms of what is sent.

## Main results

* `UDSService.call_formed`: every service leaves a response of this form.
* `responses_formed`: in every reachable state, every response has exactly one of the forms.
-/

namespace EcuUpgrade

open ResponseCode BigEndian

variable {B : Build} {env : Env} {s t : Sys} {c : ResponseCode} {sid : UInt8}

/-- The positive response to a service begins with its identifier plus `0x40`, and a negative one
consists of the identifier and the code. -/
structure Formed (sid : UInt8) (p : ResponseCode × Sys) : Prop where
  positive : p.1 = kPositiveResponse →
    p.2.srv.r.sendBuf.head? = some (sid + 0x40) ∧ p.2.srv.r.sendBuf.length ≤ 65535
  negative : p.1 ≠ kPositiveResponse → p.2.srv.r.sendBuf = [0x7F, sid, p.1.toByte]

theorem formed_negativeResponse (hreq : t.srv.r.recvBuf 0 = sid) (hc : c ≠ kPositiveResponse) :
    Formed sid (t.negativeResponse c) :=
  ⟨fun h => absurd h hc, fun _ => congrArg (fun b => [0x7F, b, c.toByte]) hreq⟩

theorem formed_positive (hhead : t.srv.r.sendBuf.head? = some (sid + 0x40))
    (hlen : t.srv.r.sendBuf.length ≤ 65535) : Formed sid (kPositiveResponse, t) :=
  ⟨fun _ => ⟨hhead, hlen⟩, fun h => absurd rfl h⟩

/-- A positive response is begun, and it fits the send buffer. -/
structure Begun (sid : UInt8) (s : Sys) : Prop where
  request : s.srv.r.recvBuf 0 = sid
  size : s.srv.r.sendBufSize = 65535
  head : s.srv.r.sendBuf.head? = some (sid + 0x40)
  length_le : s.srv.r.sendBuf.length ≤ 65535

theorem Begun.formed (h : Begun sid s) : Formed sid (kPositiveResponse, s) :=
  formed_positive h.head h.length_le

theorem begun_setSend (hsid : s.srv.r.recvBuf 0 = sid) (hsize : s.srv.r.sendBufSize = 65535)
    {bs : Bytes} (hhead : bs.head? = some (sid + 0x40)) (hlen : bs.length ≤ 65535) :
    Begun sid (s.setSend bs) :=
  ⟨hsid, hsize, hhead, hlen⟩

theorem Begun.append (h : Begun sid s) {bs : Bytes}
    (hlen : s.srv.r.sendBuf.length + bs.length ≤ 65535) :
    Begun sid (s.setSend (s.srv.r.sendBuf ++ bs)) where
  request := h.request
  size := h.size
  head := by
    change (s.srv.r.sendBuf ++ bs).head? = _
    rw [List.head?_append, h.head]
    rfl
  length_le := by
    change (s.srv.r.sendBuf ++ bs).length ≤ 65535
    rwa [List.length_append]

/-- `safe_copy` appends what there is room for. -/
theorem Begun.safeCopy_eq (h : Begun sid s) (src : Bytes) :
    s.safeCopy src = if s.srv.r.sendBuf.length + src.length ≤ 65535 then
      (kPositiveResponse, s.setSend (s.srv.r.sendBuf ++ src)) else (kResponseTooLong, s) := by
  have hle := h.length_le
  unfold Sys.safeCopy
  rw [h.size, subSize, if_pos hle]
  exact if_congr (by omega) rfl rfl

theorem Begun.safeCopy (h : Begun sid s) (src : Bytes) : Begun sid (s.safeCopy src).2 := by
  rw [h.safeCopy_eq]
  split_ifs with hroom
  · exact h.append hroom
  · exact h

theorem Begun.emit (h : Begun sid s) (e : Effect) : Begun sid (s.emit e) :=
  ⟨h.request, h.size, h.head, h.length_le⟩

/-! ### Services -/

theorem diagnosticSessionControl0x10_formed
    (hsid : s.srv.r.recvBuf 0 = kSIDDiagnosticSessionControl) :
    Formed kSIDDiagnosticSessionControl (diagnosticSessionControl0x10 env s) := by
  unfold diagnosticSessionControl0x10
  dsimp only [handleDiagSessCtrl]
  split_ifs with hlen hpos
  · exact formed_negativeResponse hsid (by simp)
  · exact absurd rfl hpos
  · exact formed_positive rfl (by simp [Sys.setSend])
  · exact formed_positive rfl (by simp [Sys.setSend])

theorem ecuReset0x11_formed (hsid : s.srv.r.recvBuf 0 = kSIDEcuReset) :
    Formed kSIDEcuReset (ecuReset0x11 env s) := by
  unfold ecuReset0x11
  dsimp only [handleEcuReset]
  split_ifs with hlen hpos
  · exact formed_negativeResponse hsid (by simp)
  · exact absurd rfl hpos
  · exact formed_positive rfl (by simp [Sys.setSend])
  · exact formed_positive rfl (by simp [Sys.setSend])

/-- Reading an identifier succeeds with a begun response, or fails. -/
theorem handleReadDataByIdent_begun (h : Begun sid s) (dataId : UInt16) :
    Begun sid (handleReadDataByIdent B env s dataId).2 := by
  unfold handleReadDataByIdent
  dsimp only
  split_ifs
  · exact h.safeCopy _
  · exact h.safeCopy _
  · exact h.safeCopy _
  · exact h

theorem readDataLoop_formed (h : Begun sid s) (n did : ℕ) :
    Formed sid (readDataLoop B env n did s) := by
  induction n generalizing s did with
  | zero => exact h.formed
  | succ n ih =>
    have hbegun (b₁ b₂ : UInt8) (ev : UDSServerEvent) (dataId : UInt16)
        (hroom : ¬s.srv.r.sendBufSize < s.srv.r.sendBuf.length + 3) :
        Begun sid (handleReadDataByIdent B env
          ((s.setSend (s.srv.r.sendBuf ++ [b₁, b₂])).emitEvent ev) dataId).2 := by
      rw [h.size] at hroom
      exact handleReadDataByIdent_begun ((h.append (by simp; omega)).emit _) dataId
    unfold readDataLoop
    dsimp only
    split_ifs with hroom hret
    · exact formed_negativeResponse h.request (by simp)
    · exact formed_negativeResponse (hbegun _ _ _ _ hroom).request hret
    · exact ih (hbegun _ _ _ _ hroom) _

theorem decodeAddressAndLength_negative {r : UDSReq} {off : ℕ} {err : ResponseCode}
    (h : decodeAddressAndLength r off = .error err) : err ≠ kPositiveResponse := by
  unfold decodeAddressAndLength at h
  dsimp only at h
  split_ifs at h <;> cases h <;> simp

theorem readDataByIdentifier0x22_formed (hsid : s.srv.r.recvBuf 0 = kSIDReadDataByIdentifier)
    (hsize : s.srv.r.sendBufSize = 65535) :
    Formed kSIDReadDataByIdentifier (readDataByIdentifier0x22 B env s) := by
  unfold readDataByIdentifier0x22
  dsimp only
  split_ifs
  · exact formed_negativeResponse hsid (by simp)
  · exact formed_negativeResponse hsid (by simp)
  · exact readDataLoop_formed (begun_setSend hsid hsize rfl (by simp)) _ _

theorem readMemoryByAddress0x23_formed (hsid : s.srv.r.recvBuf 0 = kSIDReadMemoryByAddress) :
    Formed kSIDReadMemoryByAddress (readMemoryByAddress0x23 s) := by
  unfold readMemoryByAddress0x23
  split_ifs
  · exact formed_negativeResponse hsid (by simp)
  split
  · next err herr => exact formed_negativeResponse hsid (decodeAddressAndLength_negative herr)
  · -- the handler refuses every address
    dsimp only
    rw [if_pos (by simp [handleReadMemByAddr])]
    exact formed_negativeResponse hsid (by simp [handleReadMemByAddr])

theorem sendKey0x27_formed (hsid : s.srv.r.recvBuf 0 = kSIDSecurityAccess)
    (subFunction : UInt8) (record : Bytes) :
    Formed kSIDSecurityAccess (sendKey0x27 env s subFunction record) := by
  unfold sendKey0x27
  dsimp only
  split_ifs with hkey
  · exact formed_negativeResponse hsid hkey
  · exact formed_positive rfl (by simp [Sys.setSend])

/-- There is room for a seed. -/
theorem requestSeed0x27_formed (hbegun : Begun kSIDSecurityAccess s)
    (hlen : s.srv.r.sendBuf.length = 2) (subFunction : UInt8) (record : Bytes) :
    Formed kSIDSecurityAccess (requestSeed0x27 env s subFunction record) := by
  unfold requestSeed0x27
  split
  · rw [hbegun.safeCopy_eq, hlen, if_pos (by simp)]
    exact (hbegun.append (by simp [hlen])).formed
  · unfold handleRequestSeed
    cases env.urandom with
    | none => exact formed_negativeResponse hbegun.request (by simp)
    | some buf =>
      have hseed (ev : UDSServerEvent) (seed : UInt32) :
          Begun kSIDSecurityAccess ((s.emitEvent ev).setSeed seed) :=
        ⟨hbegun.request, hbegun.size, hbegun.head, hbegun.length_le⟩
      have hroom (ev : UDSServerEvent) (seed : UInt32) :
          ((s.emitEvent ev).setSeed seed).srv.r.sendBuf.length + buf.toList.length ≤ 65535 := by
        change s.srv.r.sendBuf.length + buf.toList.length ≤ 65535
        simp [hlen]
      dsimp only
      rw [(hseed _ _).safeCopy_eq, if_pos (hroom _ _), if_neg (by simp), if_neg]
      · exact ((hseed _ _).append (hroom _ _)).formed
      · change ¬(s.srv.r.sendBuf ++ buf.toList).length ≤ 2
        simp [hlen]

theorem securityAccess0x27_formed (hsid : s.srv.r.recvBuf 0 = kSIDSecurityAccess)
    (hsize : s.srv.r.sendBufSize = 65535) :
    Formed kSIDSecurityAccess (securityAccess0x27 env s) := by
  have hbegun : Begun kSIDSecurityAccess
      (s.setSend [responseSidOf kSIDSecurityAccess, s.srv.r.recvBuf 1]) :=
    begun_setSend hsid hsize rfl (by simp)
  unfold securityAccess0x27
  dsimp only
  split_ifs
  · exact formed_negativeResponse hsid (by simp)
  · exact formed_negativeResponse hsid (by simp)
  · exact formed_negativeResponse hsid (by simp)
  · exact sendKey0x27_formed hbegun.request _ _
  · exact requestSeed0x27_formed hbegun rfl _ _

theorem communicationControl0x28_formed (hsid : s.srv.r.recvBuf 0 = kSIDCommunicationControl) :
    Formed kSIDCommunicationControl (communicationControl0x28 s) := by
  unfold communicationControl0x28
  dsimp only [handleCommCtrl]
  split_ifs with hlen hneg
  · exact formed_negativeResponse hsid (by simp)
  · exact formed_negativeResponse hsid (by simp)
  · exact absurd (by decide) hneg

theorem writeDataByIdentifier0x2E_formed (hsid : s.srv.r.recvBuf 0 = kSIDWriteDataByIdentifier) :
    Formed kSIDWriteDataByIdentifier (writeDataByIdentifier0x2E B env s) := by
  have hreq (dataId : UInt16) (data : Bytes) :
      Component.request.Same s (handleWriteDataByIdent B env
        (s.emitEvent (.writeDataByIdent dataId data)) dataId data).2 :=
    .trans (by simp) (handleWriteDataByIdent_same (by simp) _ _)
  unfold writeDataByIdentifier0x2E
  dsimp only
  split_ifs with hlen herr
  · exact formed_negativeResponse hsid (by simp)
  · exact formed_negativeResponse ((congrFun (hreq _ _).1 0).trans hsid) herr
  · exact formed_positive rfl (by simp [Sys.setSend])

theorem requestUpgradeFw_begun (h : Begun sid s) {result : UInt8}
    (ht : requestUpgradeFw B s = .ok (result, t)) : Begun sid t := by
  unfold requestUpgradeFw at ht
  dsimp only at ht
  split_ifs at ht
  obtain ⟨-, rfl⟩ := Prod.mk.inj (Except.ok.inj ht)
  cases B.target <;> exact ⟨h.request, h.size, h.head, h.length_le⟩

theorem queryUpgradeProgress_begun (h : Begun sid s) : Begun sid (queryUpgradeProgress B s).2 := by
  unfold queryUpgradeProgress
  split <;> split_ifs <;> first | exact h | exact h.emit _

/-- A routine leaves the response begun. -/
theorem handleRoutineCtrl_begun (h : Begun sid s) {ctrlType : UInt8} {id : UInt16}
    {optionRecord : Bytes} (ht : handleRoutineCtrl B env s ctrlType id optionRecord = .ok (c, t)) :
    Begun sid t := by
  have hself {c' : ResponseCode} {u : Sys} (hu : Begun sid u)
      (heq : (Except.ok (c', u) : Except Fault (ResponseCode × Sys)) = .ok (c, t)) :
      Begun sid t := by
    obtain ⟨-, rfl⟩ := Prod.mk.inj (Except.ok.inj heq)
    exact hu
  unfold handleRoutineCtrl at ht
  dsimp only at ht
  split_ifs at ht
  · exact hself h ht
  · exact hself h ht
  · split at ht
    · cases ht
    · exact hself ((h.emit _).safeCopy _) ht
  · exact hself h ht
  · exact hself (h.safeCopy _) ht
  · split at ht
    · cases ht
    · next hreq => exact hself ((requestUpgradeFw_begun h hreq).safeCopy _) ht
  · exact hself ((queryUpgradeProgress_begun h).safeCopy _) ht
  · exact hself h ht
  · exact hself h ht

theorem routineControl0x31_formed (hsid : s.srv.r.recvBuf 0 = kSIDRoutineControl)
    (hsize : s.srv.r.sendBufSize = 65535) (h : routineControl0x31 B env s = .ok (c, t)) :
    Formed kSIDRoutineControl (c, t) := by
  have hbegun (b₁ b₂ b₃ : UInt8) : Begun kSIDRoutineControl
      (s.setSend [responseSidOf kSIDRoutineControl, b₁, b₂, b₃]) :=
    begun_setSend hsid hsize rfl (by simp)
  unfold routineControl0x31 at h
  dsimp only at h
  split_ifs at h
  · rw [← Except.ok.inj h]
    exact formed_negativeResponse hsid (by simp)
  · split at h
    · cases h
    · next hroutine =>
      have hu := handleRoutineCtrl_begun ((hbegun _ _ _).emit _) hroutine
      split_ifs at h with herr
      · rw [← Except.ok.inj h]
        exact formed_negativeResponse hu.request herr
      · rw [← Except.ok.inj h]
        exact hu.formed
  · rw [← Except.ok.inj h]
    exact formed_negativeResponse (hbegun _ _ _).request (by simp)

/-- The handlers of `RequestDownload` and `RequestUpload` refuse everything. -/
theorem requestTransfer_formed {sid' : UInt8} {event : ℕ → ℕ → UInt8 → UDSServerEvent}
    {handler : ResponseCode} (hsid : s.srv.r.recvBuf 0 = sid) (hh : handler ≠ kPositiveResponse) :
    Formed sid (requestTransfer B s sid' event handler) := by
  unfold requestTransfer
  split_ifs
  · exact formed_negativeResponse hsid (by simp)
  · exact formed_negativeResponse hsid (by simp)
  split
  · next herr => exact formed_negativeResponse hsid (decodeAddressAndLength_negative herr)
  · dsimp only
    split_ifs
    · exact formed_negativeResponse hsid (by simp)
    · exact formed_negativeResponse hsid hh

theorem transferData0x36_formed (hs : Settings s) (hsid : s.srv.r.recvBuf 0 = kSIDTransferData) :
    Formed kSIDTransferData (transferData0x36 env s) := by
  rcases transferData0x36_cases env hs.rcrrp with ⟨-, heq⟩ | ⟨-, -, hrefused⟩ | ⟨path, -, heq⟩
  · rw [heq]
    exact formed_negativeResponse hsid (by simp)
  · exact ⟨fun h => absurd h hrefused.negative, fun _ => hsid ▸ hrefused.sent⟩
  · rw [heq]
    exact formed_positive rfl (by simp [Sys.acceptBlock, Sys.countBytes, Sys.emit, Sys.setFile,
      Sys.emitEvent, Sys.setSend])

theorem requestTransferExit0x37_formed (hsid : s.srv.r.recvBuf 0 = kSIDRequestTransferExit)
    (h : requestTransferExit0x37 s = .ok (c, t)) : Formed kSIDRequestTransferExit (c, t) := by
  rcases requestTransferExit0x37_cases s with ⟨-, heq⟩ | ⟨-, -, heq⟩ | ⟨path, -, -, heq⟩
  · rw [← Except.ok.inj (heq.symm.trans h)]
    exact formed_negativeResponse hsid (by simp)
  · cases h.symm.trans heq
  · rw [← Except.ok.inj (heq.symm.trans h)]
    exact formed_positive rfl (by simp [Sys.closeTransfer, Sys.resetTransfer, Sys.emit,
      Sys.setFwFile, Sys.emitEvent, Sys.setSend])

theorem requestFileTransfer0x38_formed (hsid : s.srv.r.recvBuf 0 = kSIDRequestFileTransfer) :
    Formed kSIDRequestFileTransfer (requestFileTransfer0x38 B env s) := by
  rcases requestFileTransfer0x38_cases B env s with ⟨err, -, herr, heq⟩ | ⟨args, -, -, -, heq⟩
  · rw [heq]
    exact formed_negativeResponse hsid herr
  · rw [heq]
    split_ifs
    · exact formed_positive rfl (by simp [Sys.openTransfer, Sys.setSend])
    · exact formed_negativeResponse hsid (by simp)

theorem testerPresent0x3E_formed (hsid : s.srv.r.recvBuf 0 = kSIDTesterPresent) :
    Formed kSIDTesterPresent (testerPresent0x3E env s) := by
  unfold testerPresent0x3E
  dsimp only
  split_ifs
  · exact formed_negativeResponse hsid (by simp)
  · exact formed_positive rfl (by simp [Sys.setSend])
  · exact formed_negativeResponse hsid (by simp)

theorem controlDTCSetting0x85_formed (hsid : s.srv.r.recvBuf 0 = kSIDControlDTCSetting) :
    Formed kSIDControlDTCSetting (controlDTCSetting0x85 s) := by
  unfold controlDTCSetting0x85
  dsimp only
  split_ifs
  · exact formed_negativeResponse hsid (by simp)
  · exact formed_positive rfl (by simp [Sys.setSend])

/-- **Every service leaves a response of its form.** -/
theorem UDSService.call_formed {service : UDSService} (hs : Settings s)
    (hsid : s.srv.r.recvBuf 0 = service.sid) (hsize : s.srv.r.sendBufSize = 65535)
    (h : service.call B env s = .ok (c, t)) : Formed service.sid (c, t) := by
  cases service
  case routineControl => exact routineControl0x31_formed hsid hsize h
  case requestTransferExit => exact requestTransferExit0x37_formed hsid h
  all_goals rw [← Except.ok.inj h]
  case diagnosticSessionControl => exact diagnosticSessionControl0x10_formed hsid
  case ecuReset => exact ecuReset0x11_formed hsid
  case readDataByIdentifier => exact readDataByIdentifier0x22_formed hsid hsize
  case readMemoryByAddress => exact readMemoryByAddress0x23_formed hsid
  case securityAccess => exact securityAccess0x27_formed hsid hsize
  case communicationControl => exact communicationControl0x28_formed hsid
  case writeDataByIdentifier => exact writeDataByIdentifier0x2E_formed hsid
  case requestDownload => exact requestTransfer_formed hsid (by simp [handleRequestDownload])
  case requestUpload => exact requestTransfer_formed hsid (by simp [handleRequestUpload])
  case transferData => exact transferData0x36_formed hs hsid
  case requestFileTransfer => exact requestFileTransfer0x38_formed hsid
  case testerPresent => exact testerPresent0x3E_formed hsid
  case controlDTCSetting => exact controlDTCSetting0x85_formed hsid

/-! ### Evaluations -/

/-- The ways in which a request is answered. -/
inductive ResponseForm
  | positive
  | suppressed
  | negative
  deriving DecidableEq, Repr

/-- The request belongs to a service with a sub-function and has its suppress bit set. -/
def Request.suppressesPositive (q : Request) : Prop :=
  ∃ service, getServiceForSID (q.buf 0) = some service ∧ service.hasSubFunction = true ∧
    q.buf 1 &&& 0x80 ≠ 0

/-- A request, answered with a code and a response, is answered in a way. -/
def HasForm (q : Request) (c : ResponseCode) (sent : Bytes) : ResponseForm → Prop
  | .positive => c = kPositiveResponse ∧ sent ≠ [] ∧ sent.length ≤ 65535 ∧
      sent.head? = some (q.buf 0 + 0x40)
  | .suppressed => c = kPositiveResponse ∧ sent = [] ∧ q.suppressesPositive
  | .negative => c ≠ kPositiveResponse ∧ sent = [0x7F, q.buf 0, c.toByte]

theorem HasForm.unique {q : Request} {sent : Bytes} {form form' : ResponseForm}
    (h : HasForm q c sent form) (h' : HasForm q c sent form') : form = form' := by
  cases form <;> cases form' <;> simp_all [HasForm]

theorem ServerStep.hasForm (hs : Settings s) (hmtu : B.udsTpMtu = 65535) {x : Exchange}
    (h : ServerStep B s x t) : ∃ form, HasForm x.req x.code x.sent form := by
  rcases h.cases with ⟨-, heq⟩ | ⟨service, -, hsome, -, -⟩
  · obtain ⟨hc, ht⟩ := Prod.mk.inj heq
    refine ⟨.negative, ?_⟩
    rw [h.2, hc, ht]
    exact ⟨by simp, rfl⟩
  obtain ⟨u, hcall, -, hsent⟩ := h.call_sent hs hsome
  have hsid : x.req.buf 0 = service.sid := getServiceForSID_eq_some_iff.1 hsome
  have hformed : Formed service.sid (x.code, u) :=
    UDSService.call_formed hs.receive hsid (congrArg UInt16.toNat hmtu) hcall
  rw [hsent]
  by_cases hc : x.code = kPositiveResponse
  · obtain ⟨hhead, hlen⟩ := hformed.positive hc
    split_ifs with hsup
    · exact ⟨.suppressed, hc, rfl, service, hsome, hsup.1, hsup.2.1⟩
    · refine ⟨.positive, hc, ?_, hlen, hsid ▸ hhead⟩
      rintro hnil
      rw [hnil] at hhead
      cases hhead
  · rw [if_neg fun hsup => hc hsup.2.2]
    exact ⟨.negative, hc, hsid ▸ hformed.negative hc⟩

/-- **In every reachable state, a request is answered in exactly one of the three ways**, if the
handlers return. -/
theorem responses_formed {tr : List Poll} (h : PollRun B tr s) (hmtu : B.udsTpMtu = 65535)
    {q : Request} (hprocess : processRequest B env s q = .ok (c, t)) :
    ∃! form, HasForm q c t.srv.r.sendBuf form := by
  have hstep : ServerStep B s ⟨q, env, c, t.srv.r.sendBuf⟩ t := ⟨hprocess, rfl⟩
  obtain ⟨form, hform⟩ := hstep.hasForm (PollRun.settings h) hmtu
  exact ⟨form, hform, fun _ h' => h'.unique hform⟩

/-- The response to `TesterPresent` after start-up. -/
theorem responses_formed_testerPresent : ∃ c t,
    processRequest ⟨65535, .test⟩ (.fair 0) (udsServerInit (.fair 0) fun _ => none)
      (.ofBytes [0x3E, 0x00] (by simp) fun _ => 0) = .ok (c, t) ∧
    ∃! form, HasForm (.ofBytes [0x3E, 0x00] (by simp) fun _ => 0) c t.srv.r.sendBuf form := by
  have hprocess : processRequest ⟨65535, .test⟩ (.fair 0) (udsServerInit (.fair 0) fun _ => none)
      (.ofBytes [0x3E, 0x00] (by simp) fun _ => 0) = .ok (kPositiveResponse, _) := rfl
  exact ⟨_, _, hprocess, responses_formed (.start ⟨.fair 0, fun _ => none, rfl⟩) rfl hprocess⟩

end EcuUpgrade
