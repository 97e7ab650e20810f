import EcuUpgrade.Server.Dependence
import EcuUpgrade.Transfer.Decoder
import EcuUpgrade.Transfer.Invariant

/-!
# Requests between the requests of a transfer

A client may send requests for other services while a transfer is running. They share the buffers
and the process with the transfer, but not its state: two runs that differ by such requests only
give the same answers to the requests of the transfer and leave the same firmware file.

## Main definitions

* `Request.Bystander`: the requests that may be inserted.
* `Inserted`: one history is another one with such requests inserted.
* `SameTransfer`: two processes agree on the transfer.

## Main results

* `SameTransfer.step`: a request of both runs is answered alike and keeps the agreement.
* `transfer_undisturbed`: inserted requests disturb no transfer.
-/

namespace EcuUpgrade

open ResponseCode Runs

variable {B : Build} {env env' : Env} {s s' t t' : Sys} {q q' : Request} {x y : Exchange}
  {tr tr' : List Exchange} {c c' : ResponseCode} {k : Component}

/-! ### Histories -/

/-- The request is for one of the services `0x34` to `0x38`. -/
def Exchange.ofTransfer (x : Exchange) : Bool :=
  match x.service with
  | some .requestDownload | some .requestUpload | some .transferData | some .requestTransferExit
  | some .requestFileTransfer => true
  | _ => false

/-- A request that may be inserted: for one of the services `0x10`, `0x22`, `0x27`, `0x28`, `0x2E`,
`0x3E` and `0x85`, for no service, or a `RoutineControl` for a routine other than `0x0202` and
`0xFF02`. -/
def Request.Bystander (q : Request) : Prop :=
  match getServiceForSID (q.buf 0) with
  | none | some .diagnosticSessionControl | some .readDataByIdentifier | some .securityAccess
  | some .communicationControl | some .writeDataByIdentifier | some .testerPresent
  | some .controlDTCSetting => True
  | some .routineControl => 4 ≤ q.len →
    word16 (q.buf 2) (q.buf 3) ≠ 0x0202 ∧ word16 (q.buf 2) (q.buf 3) ≠ 0xFF02
  | _ => False

/-- A request of both runs: the received bytes and the outcomes of opening and writing the firmware
file are the same, and the fields of a `RequestFileTransfer` were received. What lies behind the
received bytes and all other outcomes may differ. -/
structure SameRequest (x y : Exchange) : Prop where
  len : y.req.len = x.req.len
  pos : 0 < x.req.len
  buf : ∀ i < x.req.len, y.req.buf i = x.req.buf i
  fopenFw : y.env.fopenFw = x.env.fopenFw
  fwriteFw : y.env.fwriteFw = x.env.fwriteFw
  fields : x.service = some .requestFileTransfer → prescribedEnd x.req.buf ≤ x.req.len

/-- The second history is the first with requests inserted at arbitrary places. -/
inductive Inserted : List Exchange → List Exchange → Prop
  | nil : Inserted [] []
  | same {x y : Exchange} {tr tr' : List Exchange} (h : SameRequest x y) (htr : Inserted tr tr') :
      Inserted (x :: tr) (y :: tr')
  | insert {y : Exchange} {tr tr' : List Exchange} (h : y.req.Bystander) (htr : Inserted tr tr') :
      Inserted tr (y :: tr')

/-- The answers to the requests of the transfer. -/
def transferAnswers (tr : List Exchange) : List (ResponseCode × Bytes) :=
  (tr.filter Exchange.ofTransfer).map fun x => (x.code, x.sent)

/-! ### What a transfer consists of -/

/-- The components that a transfer consists of: its members, the name of the firmware file, its
stream, and the contents of every file but that of the data identifier. -/
def Component.OfTransfer (B : Build) : Component → Prop
  | .transfer | .fwFilename | .fwFile => True
  | .file path => path ≠ B.didFile
  | _ => False

/-- Two processes agree on the transfer. -/
def SameTransfer (B : Build) (s t : Sys) : Prop :=
  ∀ k, Component.OfTransfer B k → k.Same s t

/-- Steps that keep the transfer keep the agreement on it. -/
theorem SameTransfer.congr (h : SameTransfer B s t) (hs : SameTransfer B s s')
    (ht : SameTransfer B t t') : SameTransfer B s' t' :=
  fun k hk => (hs k hk).symm.trans ((h k hk).trans (ht k hk))

/-- Only `TransferData`, `RequestTransferExit` and `RequestFileTransfer` change the transfer. -/
theorem UDSService.touches_ofTransfer {service : UDSService} (h : service.Touches B k)
    (hk : Component.OfTransfer B k) : service = .transferData ∨ service = .requestTransferExit ∨
      service = .requestFileTransfer := by
  cases service
  case writeDataByIdentifier =>
    obtain rfl : k = .file B.didFile := h
    exact absurd rfl hk
  case transferData => exact .inl rfl
  case requestTransferExit => exact .inr (.inl rfl)
  case requestFileTransfer => exact .inr (.inr rfl)
  case diagnosticSessionControl => rcases h with rfl | rfl <;> exact hk.elim
  case ecuReset =>
    obtain rfl : k = .reset := h
    exact hk.elim
  case securityAccess => rcases h with rfl | rfl | rfl <;> exact hk.elim
  case routineControl => rcases h with rfl | rfl <;> exact hk.elim
  case testerPresent =>
    obtain rfl : k = .s3Timer := h
    exact hk.elim
  all_goals exact h.elim

/-- A request for another service than these three keeps the transfer. -/
theorem ServerStep.sameTransfer (h : ServerStep B s x t)
    (hx : ∀ service, x.service = some service → service ≠ .transferData ∧
      service ≠ .requestTransferExit ∧ service ≠ .requestFileTransfer) : SameTransfer B s t := by
  intro k hk
  refine h.same ?_ ?_ fun service hservice htouches => ?_
  · rintro rfl
    exact hk
  · rintro rfl
    exact hk
  · obtain ⟨hdata, hexit, hfile⟩ := hx service hservice
    exact (UDSService.touches_ofTransfer htouches hk).elim hdata fun h => h.elim hexit hfile

/-! ### The firmware file -/

/-- Neither the firmware file nor its stream is the file of the data identifier. -/
structure FirmwareFile (B : Build) (s : Sys) : Prop where
  name : cStr s.app.fwFilename ≠ B.didFile
  stream : ∀ path, s.app.fwFile = some path → path ≠ B.didFile

theorem FirmwareFile.of_same (hs : FirmwareFile B s) (hname : Component.fwFilename.Same s t)
    (hfile : Component.fwFile.Same s t) : FirmwareFile B t where
  name heq := hs.name (Eq.trans (congrArg cStr hname.symm) heq)
  stream path hpath := hs.stream path (Eq.trans hfile.symm hpath)

theorem requestFileTransfer0x38_firmwareFile (hs : FirmwareFile B s) :
    FirmwareFile B (requestFileTransfer0x38 B env s).2 := by
  have hne (args : FileTransferArgs) : cStr (B.fwFilename args) ≠ B.didFile :=
    cStr_fwFilename_ne_didFile B args
  rcases requestFileTransfer0x38_cases B env s with ⟨err, -, -, heq⟩ | ⟨args, -, -, -, heq⟩
  · rw [heq]
    exact ⟨hs.name, hs.stream⟩
  · rw [heq]
    split_ifs
    · refine ⟨hne args, fun path hpath => ?_⟩
      obtain rfl : cStr (B.fwFilename args) = path := Option.some.inj hpath
      exact hne args
    · exact ⟨hne args, fun path hpath => by cases hpath⟩

theorem requestTransferExit0x37_firmwareFile (hs : FirmwareFile B s)
    (h : requestTransferExit0x37 s = .ok (c, t)) : FirmwareFile B t := by
  rcases requestTransferExit0x37_cases s with ⟨-, heq⟩ | ⟨-, -, heq⟩ | ⟨path, -, -, heq⟩
  · cases h.symm.trans heq
    exact ⟨hs.name, hs.stream⟩
  · cases h.symm.trans heq
  · cases h.symm.trans heq
    exact ⟨hs.name, fun path hpath => by cases hpath⟩

/-- **No request makes the file of the data identifier the firmware file.** -/
theorem FirmwareFile.step (hs : FirmwareFile B s) (h : ServerStep B s x t) : FirmwareFile B t := by
  have hreceived : FirmwareFile B (s.receive B x.env x.req) := ⟨hs.name, hs.stream⟩
  by_cases hfile : x.service = some .requestFileTransfer
  · obtain ⟨u, hcall, rfl⟩ := h.call_setSend hfile
    obtain rfl : u = _ := congrArg Prod.snd (Except.ok.inj hcall).symm
    have hu : FirmwareFile B (requestFileTransfer0x38 B x.env (s.receive B x.env x.req)).2 :=
      requestFileTransfer0x38_firmwareFile hreceived
    exact ⟨hu.name, hu.stream⟩
  by_cases hexit : x.service = some .requestTransferExit
  · obtain ⟨u, hcall, rfl⟩ := h.call_setSend hexit
    have hu := requestTransferExit0x37_firmwareFile hreceived hcall
    exact ⟨hu.name, hu.stream⟩
  exact hs.of_same (h.same_of_owner rfl hfile) (h.fwFile_of_services hexit hfile)

/-! ### Requests of both runs -/

/-- What a request leaves in both runs, with its answers. -/
structure SameAnswer (B : Build) (x y : Exchange) (s t : Sys) : Prop where
  code : y.code = x.code
  sent : y.sent = x.sent
  same : SameTransfer B s t

/-- Refusals to two processes are the same response. -/
theorem negativeResponse_sent (h₀ : t.srv.r.recvBuf 0 = s.srv.r.recvBuf 0) (c : ResponseCode) :
    (t.negativeResponse c).2.srv.r.sendBuf = (s.negativeResponse c).2.srv.r.sendBuf :=
  congrArg (fun b => [0x7F, b, c.toByte]) h₀

/-- The reason for refusing an address depends on received bytes only. -/
theorem decodeAddressAndLength_error {r r' : UDSReq} {off : ℕ} (hlen : r'.recvLen = r.recvLen)
    (hoff : r'.recvBuf off = r.recvBuf off) {err : ResponseCode}
    (h : decodeAddressAndLength r off = .error err) :
    decodeAddressAndLength r' off = .error err := by
  unfold decodeAddressAndLength at h ⊢
  dsimp only at h ⊢
  rw [hlen, hoff]
  split_ifs at h ⊢ <;> exact h

/-- **A download or upload is refused alike** if the received bytes and the state of the transfer
agree. -/
theorem requestTransfer_answer (hactive : t.srv.xferIsActive = s.srv.xferIsActive)
    (hlen : t.srv.r.recvLen = s.srv.r.recvLen)
    (hbuf : ∀ i, i = 0 ∨ i < s.srv.r.recvLen → t.srv.r.recvBuf i = s.srv.r.recvBuf i) (sid : UInt8)
    (event : ℕ → ℕ → UInt8 → UDSServerEvent) (handler : ResponseCode) :
    (requestTransfer B t sid event handler).1 = (requestTransfer B s sid event handler).1 ∧
      (requestTransfer B t sid event handler).2.srv.r.sendBuf =
        (requestTransfer B s sid event handler).2.srv.r.sendBuf := by
  have h₀ : t.srv.r.recvBuf 0 = s.srv.r.recvBuf 0 := hbuf 0 (.inl rfl)
  unfold requestTransfer
  rw [hactive, hlen]
  by_cases hactive' : s.srv.xferIsActive = true
  · rw [if_pos hactive', if_pos hactive']
    exact ⟨rfl, negativeResponse_sent h₀ _⟩
  rw [if_neg hactive', if_neg hactive']
  by_cases hshort : s.srv.r.recvLen < 3
  · rw [if_pos hshort, if_pos hshort]
    exact ⟨rfl, negativeResponse_sent h₀ _⟩
  rw [if_neg hshort, if_neg hshort]
  have h₂ : t.srv.r.recvBuf 2 = s.srv.r.recvBuf 2 := hbuf 2 (.inr (by omega))
  cases hs : decodeAddressAndLength s.srv.r 2 with
  | error err =>
    rw [decodeAddressAndLength_error hlen h₂ hs]
    exact ⟨rfl, negativeResponse_sent h₀ _⟩
  | ok p =>
    cases ht : decodeAddressAndLength t.srv.r 2 with
    | error err => cases (decodeAddressAndLength_error hlen.symm h₂.symm ht).symm.trans hs
    | ok p' =>
      -- the decoded addresses may differ, but only the event carries them
      dsimp only
      split_ifs
      · exact ⟨rfl, negativeResponse_sent h₀ _⟩
      · exact ⟨rfl, negativeResponse_sent h₀ _⟩
      · exact ⟨rfl, rfl⟩

/-- The evaluation of a request of the transfer is the call of its service. -/
theorem ServerStep.call_ofTransfer (hs : Settings s) (h : ServerStep B s x t) {service : UDSService}
    (hx : x.service = some service) (hsub : service.hasSubFunction = false) :
    service.call B x.env (s.receive B x.env x.req) = .ok (x.code, t) :=
  (processRequest_eq_call hs hx hsub).symm.trans h.1

/-- Two calls with results that are alike give the same answer. -/
theorem SameAnswer.of_alike {C : ℕ → Prop} {l m : List Effect}
    {r r' : Except Fault (ResponseCode × Sys)} (hs : ServerStep B s x s')
    (ht : ServerStep B t y t') (hcs : r = .ok (x.code, s')) (hct : r' = .ok (y.code, t'))
    (h : AlikeResult (Component.OfTransfer B) C l m r r') :
    SameAnswer B x y s' t' := by
  subst hcs hct
  cases h with
  | ok h => exact ⟨h.code, ht.2.trans (h.sent.trans hs.2.symm), h.alike.same⟩

theorem SameAnswer.of_eq {r r' : ResponseCode × Sys} (hs : ServerStep B s x s')
    (ht : ServerStep B t y t') (hcs : r = (x.code, s')) (hct : r' = (y.code, t'))
    (h : r'.1 = r.1 ∧ r'.2.srv.r.sendBuf = r.2.srv.r.sendBuf) (hsame : SameTransfer B s' t') :
    SameAnswer B x y s' t' := by
  subst hcs hct
  exact ⟨h.1, ht.2.trans (h.2.trans hs.2.symm), hsame⟩

/-- The services that have no part in a transfer keep it in both runs. -/
theorem SameTransfer.congr_of_service (hsame : SameTransfer B s t) (hs' : ServerStep B s x s')
    (ht' : ServerStep B t y t') {service : UDSService} (hx : x.service = some service)
    (hy : y.service = some service) (hne : service ≠ .transferData ∧
      service ≠ .requestTransferExit ∧ service ≠ .requestFileTransfer) : SameTransfer B s' t' := by
  refine hsame.congr (hs'.sameTransfer fun service' h => ?_) (ht'.sameTransfer fun service' h => ?_)
  · obtain rfl : service = service' := Option.some.inj (hx.symm.trans h)
    exact hne
  · obtain rfl : service = service' := Option.some.inj (hy.symm.trans h)
    exact hne

/-- **A request of the transfer is answered alike in both runs.** -/
theorem SameTransfer.answer (hs : Settings s) (ht : Settings t) (hsame : SameTransfer B s t)
    (hfw : FirmwareFile B s) (hxy : SameRequest x y) (hx : x.ofTransfer = true)
    (hs' : ServerStep B s x s') (ht' : ServerStep B t y t') : SameAnswer B x y s' t' := by
  have halike : Alike (Component.OfTransfer B) (fun i => i < x.req.len) s.log t.log
      (s.receive B x.env x.req) (t.receive B y.env y.req) :=
    receive_alike hsame (hs.same ht) hxy.len hxy.buf (fun h => h.elim) fun h => h.elim
  have hy : y.service = x.service := congrArg getServiceForSID (hxy.buf 0 hxy.pos)
  have hcalls {service : UDSService} (hservice : x.service = some service)
      (hsub : service.hasSubFunction = false) :=
    And.intro (hs'.call_ofTransfer hs hservice hsub)
      (ht'.call_ofTransfer ht (hy.trans hservice) hsub)
  have hcells (i : ℕ) (hi : i = 0 ∨ i < x.req.len) :
      (t.receive B y.env y.req).srv.r.recvBuf i = (s.receive B x.env x.req).srv.r.recvBuf i :=
    halike.cells i (hi.elim (fun h => h ▸ hxy.pos) id)
  have hrefused := requestTransfer_answer (B := B) (halike.same .transfer trivial).1 halike.recvLen
    hcells
  unfold Exchange.ofTransfer at hx
  split at hx
  · next hservice =>
    obtain ⟨hcs, hct⟩ := hcalls hservice rfl
    exact .of_eq hs' ht' (Except.ok.inj hcs) (Except.ok.inj hct) (hrefused _ _ _)
      (hsame.congr_of_service hs' ht' hservice (hy.trans hservice) (by simp))
  · next hservice =>
    obtain ⟨hcs, hct⟩ := hcalls hservice rfl
    exact .of_eq hs' ht' (Except.ok.inj hcs) (Except.ok.inj hct) (hrefused _ _ _)
      (hsame.congr_of_service hs' ht' hservice (hy.trans hservice) (by simp))
  · next hservice =>
    obtain ⟨hcs, hct⟩ := hcalls hservice rfl
    have hresult := transferData0x36_alike halike hxy.fwriteFw trivial trivial hfw.stream hxy.pos
      fun i hi => hi
    exact .of_alike hs' ht' hcs hct (.ok hresult)
  · next hservice =>
    obtain ⟨hcs, hct⟩ := hcalls hservice rfl
    have hcells' (i : ℕ) (hi : i < 1 + subSize16 x.req.len 1) : i < x.req.len := by
      have hle : subSize16 x.req.len 1 ≤ x.req.len - 1 := by
        rw [subSize16, subSize, if_pos (Nat.succ_le_of_lt hxy.pos)]
        exact Nat.mod_le _ _
      have hpos := hxy.pos
      omega
    have hresult := requestTransferExit0x37_alike halike trivial trivial hcells'
    exact .of_alike hs' ht' hcs hct hresult
  · next hservice =>
    obtain ⟨hcs, hct⟩ := hcalls hservice rfl
    have hresult := requestFileTransfer0x38_alike (B := B) halike hxy.fopenFw trivial hxy.pos
      fun hlen i hi => Nat.lt_of_lt_of_le ((mem_indices_fileTransferArgs x.req.buf).1 i hi)
        (hxy.fields hservice)
    exact .of_alike hs' ht' hcs hct (.ok hresult)
  · cases hx

/-- A request that is not one of the transfer keeps the transfer. -/
theorem ServerStep.sameTransfer_of_not_ofTransfer (h : ServerStep B s x t)
    (hx : x.ofTransfer = false) : SameTransfer B s t := by
  refine h.sameTransfer fun service hservice => ?_
  unfold Exchange.ofTransfer at hx
  rw [hservice] at hx
  refine ⟨?_, ?_, ?_⟩ <;> rintro rfl <;> cases hx

/-! ### Inserted requests -/

theorem Request.Bystander.not_ofTransfer (h : y.req.Bystander) : y.ofTransfer = false := by
  unfold Request.Bystander at h
  unfold Exchange.ofTransfer Exchange.service Exchange.sid
  split at h <;> simp_all

variable (B env) in
theorem handleRoutineCtrl_ok {ctrlType : UInt8} {id : UInt16} {record : Bytes} (h : id ≠ 0x0202)
    (h' : id ≠ 0xFF02) : ∃ p, handleRoutineCtrl B env s ctrlType id record = .ok p := by
  unfold handleRoutineCtrl
  rw [if_neg h, if_neg h']
  split_ifs <;> exact ⟨_, rfl⟩

variable (B env) in
theorem routineControl0x31_ok (h : 4 ≤ s.srv.r.recvLen →
    word16 (s.srv.r.recvBuf 2) (s.srv.r.recvBuf 3) ≠ 0x0202 ∧
      word16 (s.srv.r.recvBuf 2) (s.srv.r.recvBuf 3) ≠ 0xFF02) :
    ∃ p, routineControl0x31 B env s = .ok p := by
  unfold routineControl0x31
  dsimp only
  split_ifs with hlen htype
  · exact ⟨_, rfl⟩
  · obtain ⟨h₁, h₂⟩ := h (Nat.not_lt.1 hlen)
    obtain ⟨⟨err, u⟩, hroutine⟩ := handleRoutineCtrl_ok B env h₁ h₂
    rw [hroutine]
    dsimp only
    split_ifs <;> exact ⟨_, rfl⟩
  · exact ⟨_, rfl⟩

/-- **An inserted request does not end the process.** -/
theorem Request.Bystander.continues (h : q.Bystander) (env : Env) (s : Sys) :
    ∃ c t, processRequest B env s q = .ok (c, t) := by
  cases hprocess : processRequest B env s q with
  | ok p => exact ⟨p.1, p.2, rfl⟩
  | error e =>
    obtain ⟨service, hservice, hcall⟩ := evaluateServiceResponse_error hprocess
    rw [receive_recvBuf] at hservice
    unfold Request.Bystander at h
    rw [hservice] at h
    cases service
    case routineControl =>
      obtain ⟨p, hp⟩ := routineControl0x31_ok B env (s := s.receive B env q) h
      cases hcall.symm.trans hp
    case requestTransferExit => exact h.elim
    all_goals cases hcall

/-- **Insertions keep the agreement on the transfer.** -/
theorem Inserted.sameTransfer (h : Inserted tr tr') (hs : Settings s) (ht : Settings t)
    (hfw : FirmwareFile B s) (hsame : SameTransfer B s t) (hp : Runs.Path (ServerStep B) s tr s')
    (hp' : Runs.Path (ServerStep B) t tr' t') :
    transferAnswers tr' = transferAnswers tr ∧ FirmwareFile B s' ∧ SameTransfer B s' t' := by
  induction h generalizing s t with
  | nil =>
    cases hp
    cases hp'
    exact ⟨rfl, hfw, hsame⟩
  | @same x y tr tr' hxy _ ih =>
    obtain _ | ⟨hx, hp⟩ := hp
    obtain _ | ⟨hy, hp'⟩ := hp'
    have hservice : y.ofTransfer = x.ofTransfer := by
      unfold Exchange.ofTransfer Exchange.service Exchange.sid
      rw [hxy.buf 0 hxy.pos]
    cases hx' : x.ofTransfer with
    | true =>
      have hanswer := hsame.answer hs ht hfw hxy hx' hx hy
      obtain ⟨hanswers, hend⟩ := ih (hs.step hx) (ht.step hy) (hfw.step hx) hanswer.same hp hp'
      refine ⟨?_, hend⟩
      unfold transferAnswers at hanswers ⊢
      simp [hservice, hx', hanswers, hanswer.code, hanswer.sent]
    | false =>
      have hkeep := hsame.congr (hx.sameTransfer_of_not_ofTransfer hx')
        (hy.sameTransfer_of_not_ofTransfer (hservice.trans hx'))
      obtain ⟨hanswers, hend⟩ := ih (hs.step hx) (ht.step hy) (hfw.step hx) hkeep hp hp'
      refine ⟨?_, hend⟩
      unfold transferAnswers at hanswers ⊢
      simp [hservice, hx', hanswers]
  | @insert y tr tr' hy _ ih =>
    obtain _ | ⟨hstep, hp'⟩ := hp'
    have hkeep := hsame.congr (fun k _ => .refl k s)
      (hstep.sameTransfer_of_not_ofTransfer hy.not_ofTransfer)
    obtain ⟨hanswers, hend⟩ := ih hs (ht.step hstep) hfw hkeep hp hp'
    refine ⟨?_, hend⟩
    unfold transferAnswers at hanswers ⊢
    simp [hy.not_ofTransfer, hanswers]

/-- **Other services do not disturb a transfer.** Of two runs of the server, the second has requests
for other services inserted at arbitrary places. The answers to the requests `0x34` to `0x38` are
the same in both, and at the end so are the members of the transfer, the name of the firmware file,
its stream and its contents. No inserted request ends the process. -/
theorem transfer_undisturbed (h : Inserted tr tr') {fs : Path → Option Bytes}
    (hs : Runs.Path (ServerStep B) (udsServerInit env fs) tr s)
    (ht : Runs.Path (ServerStep B) (udsServerInit env' fs) tr' t) :
    transferAnswers tr' = transferAnswers tr ∧ Component.transfer.Same s t ∧
      t.app.fwFilename = s.app.fwFilename ∧ t.app.fwFile = s.app.fwFile ∧
      t.fs (cStr t.app.fwFilename) = s.fs (cStr s.app.fwFilename) ∧
      ∀ (q : Request) (env : Env), q.Bystander → ∃ c u, processRequest B env t q = .ok (c, u) := by
  have hstart : FirmwareFile B (udsServerInit env fs) :=
    ⟨by simp [udsServerInit, cStr, Build.didFile, ascii], fun path hpath => by cases hpath⟩
  have hsame : SameTransfer B (udsServerInit env fs) (udsServerInit env' fs) := by
    intro k hk
    cases k <;> first | exact hk.elim | rfl | exact ⟨rfl, rfl, rfl, rfl, rfl⟩
  obtain ⟨hanswers, hfw, hend⟩ := h.sameTransfer (settings_udsServerInit env fs)
    (settings_udsServerInit env' fs) hstart hsame hs ht
  have hname : t.app.fwFilename = s.app.fwFilename := hend .fwFilename trivial
  refine ⟨hanswers, hend .transfer trivial, hname, hend .fwFile trivial, ?_,
    fun q env hq => hq.continues env t⟩
  rw [hname]
  exact hend (.file _) hfw.name

/-- A `TesterPresent` before the request that opens a file. -/
theorem transfer_undisturbed_testerPresent :
    ∃ (tr tr' : List Exchange) (s t : Sys), tr'.map (fun x => x.sid) = [0x3E, 0x38] ∧
      transferAnswers tr' = transferAnswers tr ∧ t.app.fwFilename = s.app.fwFilename := by
  let B : Build := ⟨65535, .test⟩
  let q := Request.ofBytes [0x38, 1, 0, 1, 0x61, 0, 1, 5, 5] (by decide) fun _ => 0
  let p := Request.ofBytes [0x3E, 0x00] (by decide) fun _ => 0
  have hpos : 0 < q.len := by decide
  have hfields : prescribedEnd q.buf ≤ q.len := by decide
  have hp : p.Bystander := trivial
  have hq (s : Sys) : ∃ c t, processRequest B (.fair 0) s q = .ok (c, t) := by
    cases hprocess : processRequest B (.fair 0) s q with
    | ok r => exact ⟨r.1, r.2, rfl⟩
    | error e =>
      obtain ⟨service, hservice, hcall⟩ := evaluateServiceResponse_error hprocess
      cases hservice
      cases hcall
  let s₀ := udsServerInit (.fair 0) fun _ => none
  obtain ⟨c₁, s₁, h₁⟩ := hq s₀
  obtain ⟨c₂, s₂, h₂⟩ := hp.continues (B := B) (.fair 0) s₀
  obtain ⟨c₃, s₃, h₃⟩ := hq s₂
  let x (q : Request) (c : ResponseCode) (s : Sys) : Exchange := ⟨q, .fair 0, c, s.srv.r.sendBuf⟩
  have hsame : SameRequest (x q c₁ s₁) (x q c₃ s₃) :=
    ⟨rfl, hpos, fun _ _ => rfl, rfl, rfl, fun _ => hfields⟩
  have hinserted : Inserted [x q c₁ s₁] [x p c₂ s₂, x q c₃ s₃] := .insert hp (.same hsame .nil)
  have hs : Runs.Path (ServerStep B) s₀ [x q c₁ s₁] s₁ := .cons ⟨h₁, rfl⟩ (.nil _)
  have ht : Runs.Path (ServerStep B) s₀ [x p c₂ s₂, x q c₃ s₃] s₃ :=
    .cons ⟨h₂, rfl⟩ (.cons ⟨h₃, rfl⟩ (.nil _))
  obtain ⟨hanswers, -, hname, -⟩ := transfer_undisturbed hinserted hs ht
  exact ⟨_, _, _, _, rfl, hanswers, hname⟩

end EcuUpgrade
