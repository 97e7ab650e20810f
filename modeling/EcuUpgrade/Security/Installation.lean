import EcuUpgrade.Server.Effects

/-!
# Starting the upgrade

The routine `0xFF02` calls `RequestUpgradeFw`, which starts a thread that installs the file named by
`fw_filename_`. The client starts the routine when it has transferred the image and the routine
`0x0202` has confirmed its checksum. The server keeps no record of either: whether
`RequestUpgradeFw` is invoked depends on the request alone.

## Main definitions

* `upgradeInvocations`: how often a request invokes `RequestUpgradeFw`.
* `Verified`: the file was transferred completely and its checksum confirmed since then.
* `namedFile`: the name in the last request for a file transfer that reached its handler.

## Main results

* `ServerStep.fileTransfer_cases`: the outcomes of an exchange for `RequestFileTransfer`.
* `upgradeInvocations_eq`: the requests that invoke `RequestUpgradeFw`, in every reachable state.
* `invocation_unverified`: an invocation that no verification precedes.
-/

namespace EcuUpgrade

open ResponseCode Runs

variable {B : Build} {env : Env} {s t : Sys} {c : ResponseCode} {q : Request} {x : Exchange}
  {tr : List Exchange} {k : Component}

/-- The request is `RoutineControl` with the start of the routine `0xFF02`. -/
def Request.StartsUpgrade (q : Request) : Prop :=
  getServiceForSID (q.buf 0) = some .routineControl ∧ 4 ≤ q.len ∧
    q.buf 1 &&& 0x7F = kStartRoutine ∧ word16 (q.buf 2) (q.buf 3) = 0xFF02

instance (q : Request) : Decidable q.StartsUpgrade := inferInstanceAs (Decidable (_ ∧ _))

/-- How often `RequestUpgradeFw` is invoked while the request is evaluated. Every invocation starts
the thread, also one that ends the process afterwards. -/
def upgradeInvocations (B : Build) (env : Env) (s : Sys) (q : Request) : ℕ :=
  match processRequest B env s q with
  | .ok (_, t) => (t.log.drop s.log.length).count .startUpgradeThread
  | .error (.terminate done) => done.count .startUpgradeThread
  | .error _ => 0

/-- The request is a `RequestFileTransfer` that reached its handler, which sets `fw_filename_`. -/
def Exchange.NamesFile (x : Exchange) : Prop :=
  x.service = some .requestFileTransfer ∧
    (x.code = kPositiveResponse ∨ x.code = kUploadDownloadNotAccepted)

instance (x : Exchange) : Decidable x.NamesFile := inferInstanceAs (Decidable (_ ∧ _))

/-- The name under which the file of a `RequestFileTransfer` is stored. -/
def Request.fileName (q : Request) (B : Build) : Bytes :=
  match fileTransferArgs.run q.buf with
  | .ok args => B.fwFilename args
  | .error _ => []

/-- The name set by the last `RequestFileTransfer` that reached its handler, or the empty name. -/
def namedFile (B : Build) (tr : List Exchange) : Bytes :=
  tr.foldl (fun name x => if x.NamesFile then x.req.fileName B else name) []

/-- The file `name` was received by a transfer that ended with a positive `RequestTransferExit`, and
since then the checksum routine answered the status 0 and no file transfer was requested. -/
def Verified (B : Build) (tr : List Exchange) (name : Bytes) : Prop :=
  ∃ pre x mid y post, tr = pre ++ x :: (mid ++ y :: post) ∧
    x.Accepted .requestTransferExit ∧ namedFile B pre = name ∧
    y.Accepted .routineControl ∧ word16 (y.req.buf 2) (y.req.buf 3) = 0x0202 ∧
    y.sent = [0x71, 0x01, 0x02, 0x02, 0x00] ∧
    ∀ z ∈ mid ++ y :: post, z.service ≠ some .requestFileTransfer

/-! ### The routine -/

theorem startsUpgrade_receive (hq : getServiceForSID (q.buf 0) = some .routineControl) :
    (s.receive B env q).StartsUpgrade ↔ q.StartsUpgrade := by
  simp [Sys.StartsUpgrade, Request.StartsUpgrade, hq]

/-- Starting an upgrade ends the process if one was started before. The thread is started in any
case. -/
theorem requestUpgradeFw_cases (B : Build) (s : Sys) :
    (s.app.upgradeThread = true ∧
        requestUpgradeFw B s = .error (.terminate [.startUpgradeThread])) ∨
      s.app.upgradeThread = false ∧ ∃ t, requestUpgradeFw B s = .ok (0, t) ∧
        t.app.upgradeThread = true ∧ t.log = s.log ++ [.startUpgradeThread] := by
  unfold requestUpgradeFw
  dsimp only
  cases hthread : s.app.upgradeThread with
  | false =>
    have hnot : ¬s.app.upgradeThread = true := by simp [hthread]
    refine .inr ⟨rfl, ?_⟩
    cases B.target with
    | t5 => exact ⟨_, if_neg hnot, rfl, rfl⟩
    | test => exact ⟨_, if_neg hnot, rfl, rfl⟩
  | true =>
    refine .inl ⟨rfl, ?_⟩
    cases B.target with
    | t5 => exact if_pos hthread
    | test => exact if_pos hthread

theorem handleRoutineCtrl_start (record : Bytes) :
    handleRoutineCtrl B env s kStartRoutine 0xFF02 record =
      match requestUpgradeFw B s with
      | .error e => .error e
      | .ok (result, s) => .ok (kPositiveResponse, (s.safeCopy [result]).2) := by
  unfold handleRoutineCtrl
  refine (if_neg (by decide)).trans ((if_neg (by decide)).trans ((if_pos rfl).trans ?_))
  exact if_pos rfl

variable (B env) in
/-- **The start of the routine** starts an upgrade, whatever was transferred and verified, and ends
the process if one was started before. -/
theorem routineControl0x31_starts (h : s.StartsUpgrade) :
    (s.app.upgradeThread = true ∧
        routineControl0x31 B env s = .error (.terminate [.startUpgradeThread])) ∨
      s.app.upgradeThread = false ∧ ∃ t, routineControl0x31 B env s = .ok (kPositiveResponse, t) ∧
        t.app.upgradeThread = true ∧ ∃ ev, t.log = s.log ++ [.emit ev, .startUpgradeThread] := by
  obtain ⟨hlen, htype, hid⟩ := h
  unfold routineControl0x31
  dsimp only
  rw [if_neg (Nat.not_lt.2 hlen), htype, hid, if_pos (.inl rfl), handleRoutineCtrl_start]
  set u := (s.setSend _).emitEvent _ with hu
  rcases requestUpgradeFw_cases B u with ⟨hthread, heq⟩ | ⟨hthread, t, heq, hthread', hlog⟩
  · exact .inl ⟨hthread, by rw [heq]⟩
  · refine .inr ⟨hthread, (t.safeCopy [0]).2, ?_, ?_, ?_⟩
    · rw [heq]
      rfl
    · exact Eq.trans ((Component.same_safeCopy (k := .upgradeThread) [0]).2 (.refl _ t)) hthread'
    · rw [log_safeCopy, hlog, hu]
      exact ⟨_, List.append_assoc _ _ _⟩

/-! ### Exchanges -/

/-- The call of the service of a request that starts the upgrade. -/
theorem ServerStep.call_starts (h : ServerStep B s x t) (hx : x.req.StartsUpgrade) :
    s.app.upgradeThread = false ∧ t.app.upgradeThread = true ∧
      ∃ ev, t.log = s.log ++ [.emit ev, .startUpgradeThread] := by
  obtain ⟨u, hcall, rfl⟩ := h.call_setSend hx.1
  rcases routineControl0x31_starts B x.env ((startsUpgrade_receive hx.1).2 hx) with
    ⟨-, heq⟩ | ⟨hthread, v, heq, hthread', hlog⟩
  · cases hcall.symm.trans heq
  · obtain ⟨-, rfl⟩ := Prod.mk.inj (Except.ok.inj (hcall.symm.trans heq))
    exact ⟨hthread, hthread', hlog⟩

/-- No other request starts an upgrade. -/
theorem ServerStep.appends_of_not_starts (h : ServerStep B s x t) (hx : ¬x.req.StartsUpgrade) :
    Appends (· ≠ .startUpgradeThread) s t := by
  by_cases hservice : x.service = some .routineControl
  · obtain ⟨u, hcall, rfl⟩ := h.call_setSend hservice
    have hnot : ¬(s.receive B x.env x.req).StartsUpgrade :=
      fun hstart => hx ((startsUpgrade_receive hservice).1 hstart)
    have hu : Appends (· ≠ .startUpgradeThread) (s.receive B x.env x.req) u :=
      routineControl0x31_appends (by simp) (by simp) (by simp) (fun hstart => absurd hstart hnot)
        hcall
    exact hu
  · refine h.appends.mono ?_
    rintro e ⟨service, hsome, hcauses⟩ rfl
    cases service <;> simp_all [UDSService.Causes]

/-- The exchanges that start an upgrade. -/
theorem ServerStep.count_starts (h : ServerStep B s x t) : ∃ effects, t.log = s.log ++ effects ∧
    effects.count .startUpgradeThread = if x.req.StartsUpgrade then 1 else 0 := by
  by_cases hx : x.req.StartsUpgrade
  · obtain ⟨-, -, ev, hlog⟩ := h.call_starts hx
    exact ⟨_, hlog, by simp [hx]⟩
  · obtain ⟨effects, hlog, hnone⟩ := h.appends_of_not_starts hx
    refine ⟨effects, hlog, ?_⟩
    rw [if_neg hx, List.count_eq_zero]
    exact fun hmem => hnone _ hmem rfl

/-- A request ends the process by `std::terminate` only if it starts an upgrade. -/
theorem processRequest_terminate {done : List Effect}
    (h : processRequest B env s q = .error (.terminate done)) :
    q.StartsUpgrade ∧ done = [.startUpgradeThread] := by
  obtain ⟨service, hsome, hcall⟩ := evaluateServiceResponse_error h
  cases service
  case routineControl =>
    rcases routineControl0x31_fault hcall with hsum | ⟨hstarts, hdone⟩
    · exact hsum.elim
    · exact ⟨(startsUpgrade_receive hsome).1 hstarts, by simpa using hdone⟩
  case requestTransferExit =>
    rcases requestTransferExit0x37_cases (s.receive B env q) with
      ⟨-, heq⟩ | ⟨-, -, heq⟩ | ⟨path, -, -, heq⟩ <;> cases hcall.symm.trans heq
  all_goals cases hcall

/-- A request that starts an upgrade is evaluated, or it ends the process by `std::terminate`. -/
theorem processRequest_starts {e : Fault} (hq : q.StartsUpgrade)
    (h : processRequest B env s q = .error e) : e = .terminate [.startUpgradeThread] := by
  obtain ⟨service, hsome, hcall⟩ := evaluateServiceResponse_error h
  obtain rfl : service = .routineControl := Option.some.inj (hsome.symm.trans hq.1)
  rcases routineControl0x31_starts _ _ ((startsUpgrade_receive hq.1).2 hq) with
    ⟨-, heq⟩ | ⟨-, t, heq, -⟩
  · exact Except.error.inj (hcall.symm.trans heq)
  · cases hcall.symm.trans heq

/-- Which upgrades were started. -/
theorem ServerStep.upgradeThread (h : ServerStep B s x t) :
    t.app.upgradeThread = true ↔ s.app.upgradeThread = true ∨ x.req.StartsUpgrade := by
  by_cases hx : x.req.StartsUpgrade
  · simp [hx, (h.call_starts hx).2.1]
  have hsame : Component.upgradeThread.Same s t := by
    by_cases hservice : x.service = some .routineControl
    · obtain ⟨u, hcall, rfl⟩ := h.call_setSend hservice
      have hnot : ¬(s.receive B x.env x.req).StartsUpgrade :=
        fun hstart => hx ((startsUpgrade_receive hservice).1 hstart)
      have hu : Component.upgradeThread.Same (s.receive B x.env x.req) u :=
        routineControl0x31_same (fun hstart => absurd hstart hnot) hcall
      exact hu
    · exact h.same_of_owner rfl hservice
  rw [show t.app.upgradeThread = s.app.upgradeThread from hsame]
  simp [hx]

/-- The reasons for which no handler is called. -/
theorem fileTransferRefusal_ne {err : ResponseCode} (h : s.fileTransferRefusal = some err) :
    err ≠ kPositiveResponse ∧ err ≠ kUploadDownloadNotAccepted := by
  unfold Sys.fileTransferRefusal at h
  split_ifs at h
  · cases h
    simp
  · cases h
    simp
  · split at h
    · next herr =>
      cases h
      simp [fileTransferArgs_run_error herr]
    · cases h

/-- **The outcomes of an exchange for `RequestFileTransfer`**: its handler is not reached, the file
cannot be opened, or it is created and open for the transfer. -/
theorem ServerStep.fileTransfer_cases (h : ServerStep B s x t)
    (hx : x.service = some .requestFileTransfer) :
    (¬x.NamesFile ∧ t.app.fwFilename = s.app.fwFilename ∧ t.app.fwFile = s.app.fwFile ∧
        t.fs = s.fs ∧ t.log = s.log) ∨
      ∃ args, fileTransferArgs.run x.req.buf = .ok args ∧ x.NamesFile ∧
        t.app.fwFilename = B.fwFilename args ∧
        t.log = s.log ++ [.emit (.requestFileTransfer args),
          .fopen (cStr (B.fwFilename args))] ∧
        (x.env.fopenFw = false ∧ t.app.fwFile = none ∧ t.fs = s.fs ∨
          x.env.fopenFw = true ∧ t.app.fwFile = some (cStr (B.fwFilename args)) ∧
            ∀ path, path ≠ cStr (B.fwFilename args) → t.fs path = s.fs path) := by
  obtain ⟨u, hcall, rfl⟩ := h.call_setSend hx
  have hcall' : requestFileTransfer0x38 B x.env (s.receive B x.env x.req) = (x.code, u) :=
    Except.ok.inj hcall
  rcases requestFileTransfer0x38_cases B x.env (s.receive B x.env x.req) with
    ⟨err, hrefusal, -, heq⟩ | ⟨args, -, -, hargs, heq⟩
  · obtain ⟨hcode, rfl⟩ := Prod.mk.inj (hcall'.symm.trans heq)
    obtain ⟨hpos, hnot⟩ := fileTransferRefusal_ne hrefusal
    exact .inl ⟨fun hnames => hnames.2.elim (fun hc => hpos (hcode.symm.trans hc))
      fun hc => hnot (hcode.symm.trans hc), rfl, rfl, rfl, rfl⟩
  · rw [receive_recvBuf] at hargs
    refine .inr ⟨args, hargs, ?_⟩
    split_ifs at heq with hopen
    · obtain ⟨hcode, rfl⟩ := Prod.mk.inj (hcall'.symm.trans heq)
      refine ⟨⟨hx, .inl hcode⟩, rfl, List.append_assoc _ _ _, .inr ⟨hopen, rfl, ?_⟩⟩
      exact fun path hne => if_neg hne
    · obtain ⟨hcode, rfl⟩ := Prod.mk.inj (hcall'.symm.trans heq)
      refine ⟨⟨hx, .inr hcode⟩, rfl, List.append_assoc _ _ _, .inl ⟨?_, rfl, rfl⟩⟩
      simpa using hopen

/-- Which file an exchange names. -/
theorem ServerStep.fwFilename (h : ServerStep B s x t) :
    t.app.fwFilename = if x.NamesFile then x.req.fileName B else s.app.fwFilename := by
  by_cases hservice : x.service = some .requestFileTransfer
  · rcases h.fileTransfer_cases hservice with ⟨hnot, hname, -⟩ | ⟨args, hargs, hnames, hname, -⟩
    · rw [if_neg hnot, hname]
    · rw [if_pos hnames, hname, Request.fileName, hargs]
  · rw [if_neg fun hnames => hservice hnames.1]
    exact h.same_of_owner (k := .fwFilename) rfl hservice

/-- **The invocations of `RequestUpgradeFw`** by one request, in any state. -/
theorem upgradeInvocations_of_state (B : Build) (env : Env) (s : Sys) (q : Request) :
    upgradeInvocations B env s q = if q.StartsUpgrade then 1 else 0 := by
  unfold upgradeInvocations
  split
  · next c t hprocess =>
    have hstep : ServerStep B s ⟨q, env, c, t.srv.r.sendBuf⟩ t := ⟨hprocess, rfl⟩
    obtain ⟨effects, hlog, hcount⟩ := hstep.count_starts
    rw [hlog, List.drop_left]
    exact hcount
  · next done hprocess =>
    obtain ⟨hq, rfl⟩ := processRequest_terminate hprocess
    rw [if_pos hq]
    rfl
  · next e hnot hprocess =>
    rw [if_neg]
    intro hq
    exact hnot _ (processRequest_starts hq hprocess)

/-! ### Runs -/

theorem namedFile_snoc : namedFile B (tr ++ [x]) =
    if x.NamesFile then x.req.fileName B else namedFile B tr := by
  simp [namedFile]

/-- What the process knows of its history: whether an upgrade was started, and the name of the last
file that was named. -/
theorem ServerRun.upgrade (h : ServerRun B tr s) :
    (s.app.upgradeThread = true ↔ ∃ x ∈ tr, x.req.StartsUpgrade) ∧
      s.app.fwFilename = namedFile B tr := by
  refine Run.invariant (P := fun tr s =>
    (s.app.upgradeThread = true ↔ ∃ x ∈ tr, x.req.StartsUpgrade) ∧
      s.app.fwFilename = namedFile B tr) ?_ ?_ h
  · rintro s ⟨env, fs, rfl⟩
    simp [udsServerInit, namedFile]
  · rintro tr s x t - ⟨hthread, hname⟩ hstep
    rw [hstep.upgradeThread, hthread, hstep.fwFilename, namedFile_snoc, hname]
    simp [or_and_right, exists_or]

/-- **When `RequestUpgradeFw` is invoked.** In every run it was invoked once for each request that
starts the routine `0xFF02`, and in the state that is reached every such request invokes it once
more and no other request does, whatever was transferred and verified before. -/
theorem upgradeInvocations_eq (h : ServerRun B tr s) (env : Env) (q : Request) :
    s.log.count .startUpgradeThread = tr.countP (fun x => decide x.req.StartsUpgrade) ∧
      upgradeInvocations B env s q = if q.StartsUpgrade then 1 else 0 := by
  refine ⟨?_, upgradeInvocations_of_state B env s q⟩
  refine Run.invariant (P := fun tr s =>
    s.log.count .startUpgradeThread = tr.countP fun x => decide x.req.StartsUpgrade) ?_ ?_ h
  · rintro s ⟨env, fs, rfl⟩
    rfl
  · rintro tr s x t - hcount hstep
    obtain ⟨effects, hlog, hone⟩ := hstep.count_starts
    rw [hlog, List.count_append, hcount, hone, List.countP_append]
    by_cases hx : x.req.StartsUpgrade <;> simp [hx]

/-- A request to start the routine `0xFF02`. -/
def startUpgradeRequest : Request := .ofBytes [0x31, 0x01, 0xFF, 0x02] (by simp) fun _ => 0

/-- The upgrade was started with a file that has just been opened, and is started once more. -/
theorem upgradeInvocations_eq_second : ∃ tr s, ServerRun ⟨65535, .t5⟩ tr s ∧
    s.log.count .startUpgradeThread = 1 ∧
      upgradeInvocations ⟨65535, .t5⟩ (.fair 0) s startUpgradeRequest = 1 := by
  obtain ⟨tr, s, hrun, hstarts⟩ := exists_run_of_serve ⟨65535, .t5⟩ (.fair 0) (fun _ => none)
    [(.fair 0, addFileRequest 3), (.fair 0, startUpgradeRequest)]
    (fun tr _ => tr.countP (fun x => decide x.req.StartsUpgrade) = 1) (by decide +kernel)
  obtain ⟨hcount, hinvokes⟩ := upgradeInvocations_eq hrun (.fair 0) startUpgradeRequest
  exact ⟨tr, s, hrun, hcount.trans hstarts, hinvokes⟩

/-- The upgrade to the file of a transfer that has just been opened is started: nothing of the file
was received, and no checksum was compared. -/
theorem invocation_unverified :
    ¬∀ (B : Build) (tr : List Exchange) (s : Sys) (env : Env) (q : Request), ServerRun B tr s →
      upgradeInvocations B env s q ≠ 0 → Verified B tr s.app.fwFilename := by
  intro hclaim
  obtain ⟨tr, s, hrun, hlen⟩ := exists_run_of_serve ⟨65535, .t5⟩ (.fair 0) (fun _ => none)
    [(.fair 0, addFileRequest 3)] (fun tr _ => tr.length = 1) (by decide +kernel)
  have hinvokes : upgradeInvocations ⟨65535, .t5⟩ (.fair 0) s startUpgradeRequest ≠ 0 := by
    rw [upgradeInvocations_of_state]
    decide
  obtain ⟨pre, x, mid, y, post, rfl, -⟩ := hclaim _ _ _ _ _ hrun hinvokes
  simp at hlen
  omega

end EcuUpgrade
