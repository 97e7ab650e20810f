import EcuUpgrade.Server.Frames
import EcuUpgrade.Lib.Runs

/-!
# Runs of the upgrade server

A run of the server is a sequence of received requests, evaluated one after another from
`UDSServerInit` on. An `Exchange` records a request with the outcomes of the system calls made
for it, the code the evaluation returned and the response it left in the send buffer. An
evaluation that ends the process ends the run.

## Main definitions

* `Exchange`, `ServerStep`, `ServerRun`: the transition system of the server.
* `Sys.serve`: the evaluation of a list of requests.

## Main results

* `ServerStep.cases`: an exchange is the call of the service of its request.
* `ServerStep.same`: an exchange changes nothing but what that service touches.
* `ServerRun.settings`: what no exchange changes has its initial value in every reachable state.
-/

namespace EcuUpgrade

open ResponseCode

/-- A request that was evaluated, with its outcome. -/
structure Exchange where
  req : Request
  env : Env
  code : ResponseCode
  sent : Bytes

/-- The service identifier of the request. -/
def Exchange.sid (x : Exchange) : UInt8 := x.req.buf 0

/-- The service of the request. -/
def Exchange.service (x : Exchange) : Option UDSService := getServiceForSID x.sid

/-- The positive answer of a service. -/
def Exchange.Accepted (x : Exchange) (service : UDSService) : Prop :=
  x.service = some service ∧ x.code = kPositiveResponse

instance (x : Exchange) (service : UDSService) : Decidable (x.Accepted service) :=
  inferInstanceAs (Decidable (_ ∧ _))

/-- A state after start-up. -/
def ServerStart (s : Sys) : Prop := ∃ env fs, s = udsServerInit env fs

/-- The evaluation of a request that leaves the process running. -/
def ServerStep (B : Build) (s : Sys) (x : Exchange) (t : Sys) : Prop :=
  processRequest B x.env s x.req = .ok (x.code, t) ∧ x.sent = t.srv.r.sendBuf

/-- A run of the server from its start-up. -/
abbrev ServerRun (B : Build) : List Exchange → Sys → Prop := Runs.Run ServerStart (ServerStep B)

variable {B : Build} {env : Env} {s t : Sys} {q : Request} {x : Exchange} {k : Component}

/-- The identifier of a service. -/
def UDSService.sid : UDSService → UInt8
  | .diagnosticSessionControl => kSIDDiagnosticSessionControl
  | .ecuReset => kSIDEcuReset
  | .readDataByIdentifier => kSIDReadDataByIdentifier
  | .readMemoryByAddress => kSIDReadMemoryByAddress
  | .securityAccess => kSIDSecurityAccess
  | .communicationControl => kSIDCommunicationControl
  | .writeDataByIdentifier => kSIDWriteDataByIdentifier
  | .routineControl => kSIDRoutineControl
  | .requestDownload => kSIDRequestDownload
  | .requestUpload => kSIDRequestUpload
  | .transferData => kSIDTransferData
  | .requestTransferExit => kSIDRequestTransferExit
  | .requestFileTransfer => kSIDRequestFileTransfer
  | .testerPresent => kSIDTesterPresent
  | .controlDTCSetting => kSIDControlDTCSetting

private theorem or_of_ite_eq_some {α : Type} {p : Prop} [Decidable p] {a b : α} {o : Option α}
    (h : (if p then some a else o) = some b) : p ∧ a = b ∨ o = some b := by
  by_cases hp : p
  · exact .inl ⟨hp, by simpa [hp] using h⟩
  · exact .inr (by simpa [hp] using h)

theorem getServiceForSID_eq_some_iff {sid : UInt8} {service : UDSService} :
    getServiceForSID sid = some service ↔ sid = service.sid := by
  constructor
  · intro h
    unfold getServiceForSID at h
    -- one row of the switch after the other
    iterate 15
      rcases or_of_ite_eq_some h with ⟨rfl, rfl⟩ | h
      · rfl
    cases h
  · rintro rfl
    cases service <;> rfl

/-! ### Receiving a request -/

@[simp] theorem receive_recvBuf : (s.receive B env q).srv.r.recvBuf = q.buf := rfl

@[simp] theorem receive_recvLen : (s.receive B env q).srv.r.recvLen = q.len := rfl

theorem receive_same (h : k ≠ .request) (h' : k ≠ .upgrading) :
    k.Same s (s.receive B env q) := by
  cases k <;> simp_all [Component.Same, Sys.receive]

/-! ### Steps -/

/-- **The exchange of one request**: a request without a service is refused; otherwise its
service is called, and its answer is possibly dropped. -/
theorem ServerStep.cases (h : ServerStep B s x t) :
    (x.service = none ∧
        (x.code, t) = (s.receive B x.env x.req).negativeResponse kServiceNotSupported) ∨
      ∃ service u, x.service = some service ∧
        service.call B x.env (s.receive B x.env x.req) = .ok (x.code, u) ∧
        t = if service.suppresses u.srv.r x.code then u.noResponse else u :=
  evaluateServiceResponse_cases h.1

/-- The exchange of a request whose service is known. -/
theorem ServerStep.call (h : ServerStep B s x t) {service : UDSService}
    (hx : x.service = some service) :
    ∃ u, service.call B x.env (s.receive B x.env x.req) = .ok (x.code, u) ∧
      t = if service.suppresses u.srv.r x.code then u.noResponse else u := by
  rcases h.cases with ⟨hnone, -⟩ | ⟨service', u, hsome, hcall, ht⟩
  · rw [hx] at hnone
    cases hnone
  · rw [hx] at hsome
    cases hsome
    exact ⟨u, hcall, ht⟩

/-- The process after an exchange is the one that its service leaves, with what is sent in the send
buffer. -/
theorem ServerStep.call_setSend (h : ServerStep B s x t) {service : UDSService}
    (hx : x.service = some service) :
    ∃ u, service.call B x.env (s.receive B x.env x.req) = .ok (x.code, u) ∧
      t = u.setSend x.sent := by
  obtain ⟨u, hcall, ht⟩ := h.call hx
  refine ⟨u, hcall, ?_⟩
  rw [h.2, ht]
  split_ifs <;> rfl

/-- **An exchange changes nothing but what its service touches**, the request and the flag of
the running upgrade apart. -/
theorem ServerStep.same (h : ServerStep B s x t) (hreq : k ≠ .request) (hupg : k ≠ .upgrading)
    (hk : ∀ service, x.service = some service → ¬service.Touches B k) : k.Same s t :=
  (receive_same hreq hupg).trans (evaluateServiceResponse_same h.1 hk)

/-- **An exchange of another service than its owner leaves a component as it is.** -/
theorem ServerStep.same_of_owner (h : ServerStep B s x t) {owner : UDSService}
    (howner : k.owner = some owner) (hx : x.service ≠ some owner) : k.Same s t := by
  refine h.same ?_ ?_ fun service hservice htouches => ?_
  · rintro rfl
    cases howner
  · rintro rfl
    cases howner
  · rw [UDSService.eq_of_touches howner htouches] at hservice
    exact hx hservice

/-! ### What stays as it was initialised -/

/-- The members that no service assigns to have the values of `UDSServerInit`. -/
structure Settings (s : Sys) : Prop where
  p2Ms : s.srv.p2Ms = udsServerDefaultP2Ms
  p2StarMs : s.srv.p2StarMs = udsServerDefaultP2StarMs
  s3Ms : s.srv.s3Ms = udsServerDefaultS3Ms
  rcrrp : s.srv.rcrrp = false
  taType : s.srv.r.taType = .physical

theorem UDSService.not_touches_settings (service : UDSService) : ¬service.Touches B .settings := by
  cases service <;> simp [UDSService.Touches]

theorem Settings.of_same (hs : Settings s) (h : Component.settings.Same s t) : Settings t := by
  obtain ⟨h₁, h₂, h₃, -, -, h₄, -, h₅⟩ := h
  exact ⟨h₁.trans hs.p2Ms, h₂.trans hs.p2StarMs, h₃.trans hs.s3Ms, h₄.trans hs.rcrrp,
    h₅.trans hs.taType⟩

theorem Settings.step (hs : Settings s) (h : ServerStep B s x t) : Settings t :=
  hs.of_same (h.same (by simp) (by simp) fun service _ => service.not_touches_settings)

theorem Settings.receive (hs : Settings s) : Settings (s.receive B env q) :=
  hs.of_same (receive_same (by simp) (by simp))

/-- **The evaluation of a service without sub-function** is its call: nothing is dropped, since
every request is physically addressed. -/
theorem processRequest_eq_call (hs : Settings s) {service : UDSService}
    (hq : getServiceForSID (q.buf 0) = some service) (hsub : service.hasSubFunction = false) :
    processRequest B env s q = service.call B env (s.receive B env q) := by
  unfold processRequest evaluateServiceResponse
  rw [receive_recvBuf, hq]
  dsimp only
  cases hcall : service.call B env (s.receive B env q) with
  | error e => rfl
  | ok p =>
    obtain ⟨c, t⟩ := p
    have ht : Settings t :=
      Settings.of_same hs.receive (service.call_same hcall service.not_touches_settings)
    have htaType : t.srv.r.taType ≠ .functional := by
      rw [ht.taType]
      simp
    simp [hsub, htaType]

theorem UDSService.not_touches_request (service : UDSService) : ¬service.Touches B .request := by
  cases service <;> simp [UDSService.Touches]

/-- **What is sent**: the response of the service, unless it is a positive one to a request with
the suppress bit. -/
theorem ServerStep.call_sent (hs : Settings s) (h : ServerStep B s x t) {service : UDSService}
    (hx : x.service = some service) :
    ∃ u, service.call B x.env (s.receive B x.env x.req) = .ok (x.code, u) ∧
      (∀ k : Component, k.Same u t) ∧
      x.sent = if service.hasSubFunction = true ∧ x.req.buf 1 &&& 0x80 ≠ 0 ∧
        x.code = kPositiveResponse then [] else u.srv.r.sendBuf := by
  obtain ⟨u, hcall, ht⟩ := h.call hx
  have hu : Settings u :=
    Settings.of_same hs.receive (service.call_same hcall service.not_touches_settings)
  obtain ⟨hbuf, -⟩ : Component.request.Same (s.receive B x.env x.req) u :=
    service.call_same hcall service.not_touches_request
  refine ⟨u, hcall, fun k => ?_, ?_⟩
  · rw [ht]
    split_ifs <;> simp
  · rw [h.2, ht]
    unfold UDSService.suppresses
    rw [hu.taType, hbuf, receive_recvBuf]
    by_cases hbit : x.req.buf 1 &&& 0x80 = 0 <;> by_cases hsub : service.hasSubFunction <;>
      by_cases hcode : x.code = kPositiveResponse <;> simp [hbit, hsub, hcode, Sys.noResponse,
        Sys.setSend]

/-- A positive response to a request with sub-function is sent, unless it has the suppress bit. -/
theorem ServerStep.sent_of_positive (hs : Settings s) (h : ServerStep B s x t)
    {service : UDSService} (hx : x.service = some service) (hsub : service.hasSubFunction = true)
    {u : Sys} (hcall : service.call B x.env (s.receive B x.env x.req) = .ok (x.code, u))
    (hcode : x.code = kPositiveResponse) :
    x.sent = if x.req.buf 1 &&& 0x80 = 0 then u.srv.r.sendBuf else [] := by
  obtain ⟨v, hcall', -, hsent⟩ := h.call_sent hs hx
  obtain ⟨-, rfl⟩ := Prod.mk.inj (Except.ok.inj (hcall.symm.trans hcall'))
  rw [hsent]
  by_cases hbit : x.req.buf 1 &&& 0x80 = 0
  · rw [if_neg fun hcond => hcond.2.1 hbit, if_pos hbit]
  · rw [if_pos ⟨hsub, hbit, hcode⟩, if_neg hbit]

theorem settings_udsServerInit (env : Env) (fs : Path → Option Bytes) :
    Settings (udsServerInit env fs) :=
  ⟨rfl, rfl, rfl, rfl, rfl⟩

/-- **No exchange changes the settings.** -/
theorem ServerRun.settings {tr : List Exchange} (h : ServerRun B tr s) : Settings s :=
  Runs.Run.invariant (P := fun _ s => Settings s)
    (fun _ ⟨env, fs, hs⟩ => hs ▸ settings_udsServerInit env fs)
    (fun _ _ _ _ _ hs hstep => hs.step hstep) h

/-! ### Evaluating a run -/

/-- The process after a request, if its evaluation leaves it running. -/
def Sys.after (B : Build) (s : Sys) (env : Env) (q : Request) : Option Sys :=
  match processRequest B env s q with
  | .error _ => none
  | .ok (_, t) => some t

/-- The exchange of a request. -/
def Sys.exchange (B : Build) (s : Sys) (env : Env) (q : Request) : Option Exchange :=
  match processRequest B env s q with
  | .error _ => none
  | .ok (c, t) => some ⟨q, env, c, t.srv.r.sendBuf⟩

/-- The exchanges of a list of requests, and the state after them. -/
def Sys.serve (B : Build) (s : Sys) : List (Env × Request) → Option (List Exchange × Sys)
  | [] => some ([], s)
  | (env, q) :: rest => do
    let x ← s.exchange B env q
    let t ← s.after B env q
    let (tr, u) ← t.serve B rest
    some (x :: tr, u)

theorem serverStep_of_exchange (hx : s.exchange B env q = some x) (ht : s.after B env q = some t) :
    ServerStep B s x t := by
  unfold Sys.exchange at hx
  unfold Sys.after at ht
  split at hx
  · cases hx
  · next hq =>
    rw [hq] at ht
    cases hx
    cases ht
    exact ⟨hq, rfl⟩

/-- A request whose evaluation leaves the process running. -/
theorem exists_serverStep (B : Build) (s : Sys) (env : Env) (q : Request)
    (h : (processRequest B env s q).toOption.isSome = true) :
    ∃ x t, ServerStep B s x t ∧ x.req = q ∧ x.env = env := by
  cases hprocess : processRequest B env s q with
  | error e =>
    rw [hprocess] at h
    cases h
  | ok r => exact ⟨⟨q, env, r.1, r.2.srv.r.sendBuf⟩, r.2, ⟨hprocess, rfl⟩, rfl, rfl⟩

/-- A request with a service is evaluated if the call of its service is. -/
theorem processRequest_isOk_iff {service : UDSService}
    (hq : getServiceForSID (q.buf 0) = some service) :
    (∃ r, processRequest B env s q = .ok r) ↔
      ∃ r, service.call B env (s.receive B env q) = .ok r := by
  constructor
  · rintro ⟨⟨c, t⟩, h⟩
    rcases evaluateServiceResponse_cases h with ⟨hnone, -⟩ | ⟨service', u, hsome, hcall, -⟩
    · cases hnone.symm.trans hq
    · obtain rfl : service = service' := Option.some.inj (hq.symm.trans hsome)
      exact ⟨_, hcall⟩
  · rintro ⟨r, hcall⟩
    cases hprocess : processRequest B env s q with
    | ok r => exact ⟨r, rfl⟩
    | error e =>
      obtain ⟨service', hsome, herror⟩ := evaluateServiceResponse_error hprocess
      obtain rfl : service = service' := Option.some.inj (hq.symm.trans hsome)
      cases hcall.symm.trans herror

theorem Sys.serve_path {qs : List (Env × Request)} {tr : List Exchange}
    (h : s.serve B qs = some (tr, t)) : Runs.Path (ServerStep B) s tr t := by
  induction qs generalizing s tr with
  | nil =>
    cases h
    exact .nil _
  | cons q rest ih =>
    simp only [Sys.serve, Option.bind_eq_bind, Option.bind_eq_some_iff] at h
    obtain ⟨x, hx, u, hu, ⟨tr', t'⟩, hrest, heq⟩ := h
    cases heq
    exact .cons (serverStep_of_exchange hx hu) (ih hrest)

theorem exists_run_of_serve (B : Build) (env : Env) (fs : Path → Option Bytes)
    (qs : List (Env × Request)) (P : List Exchange → Sys → Prop) [∀ tr t, Decidable (P tr t)]
    (h : ((udsServerInit env fs).serve B qs).any (fun p => decide (P p.1 p.2)) = true) :
    ∃ tr s, ServerRun B tr s ∧ P tr s := by
  cases hserve : (udsServerInit env fs).serve B qs with
  | none => simp [hserve] at h
  | some p =>
    rw [hserve] at h
    exact ⟨p.1, p.2, (Runs.Run.start ⟨env, fs, rfl⟩).append (Sys.serve_path hserve),
      of_decide_eq_true h⟩

/-- An environment in which everything succeeds, at a fixed time. -/
def Env.fair (now : ℕ) : Env where
  millis _ := now
  urandom := some #v[1, 2, 3, 4]
  fopenFw := true
  fwriteFw := 65535
  bspVersion := none
  statDid := true
  mkdirDid := true
  fopenDid := true
  fwriteDid := 65535
  fopenDidRead := true
  md5Text := none
  chsumInit := .replicate 16 0
  upgradeEnds := false

/-- A `RequestFileTransfer` request that adds a file named `a` of a given size. -/
def addFileRequest (size : UInt8) : Request :=
  .ofBytes [0x38, 1, 0, 1, 0x61, 0, 1, size, size] (by simp) fun _ => 0

end EcuUpgrade
