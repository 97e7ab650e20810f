import EcuUpgrade.Client.Verdict
import EcuUpgrade.Server.Silence

/-!
# `ProgramSoc` against the upgrade server

The last request of a successful upgrade is an `ECUReset`, and the `finally` block of `ProgramSoc`
still asks for the default session behind it. A server that has confirmed the reset does not answer
any more. So the call of the `finally` block times out, and its exception replaces the result.

The client library is a parameter. While one of its calls waits, the server is polled, at whatever
times and with whatever requests; what the library makes of the responses is documented.

## Main definitions

* `Connected`: a client whose calls take place while the server is polled.
* `Connected.Documented`: a call returns with a positive response only, and it times out if there is
  no response.

## Main results

* `KeptByCalls.programSoc`: what every call keeps, the whole function keeps.
* `programSoc_fails`: against the server, the function never returns.
-/

namespace EcuUpgrade

open Programs Programs.Prog Runs BigEndian

variable {σ : Type} {B : Build} {c : UdsClient σ} {m : Machine} {app : Bytes} {fuel : ℕ}

/-! ### The connected client -/

/-- The identifier of the service that a call requests. -/
def Call.sid : Call → UInt8
  | .changeSession _ => kSIDDiagnosticSessionControl
  | .startRoutine _ _ => kSIDRoutineControl
  | .getRoutineResult _ => kSIDRoutineControl
  | .unlockSecurityAccess _ => kSIDSecurityAccess
  | .writeDataByIdentifier _ _ => kSIDWriteDataByIdentifier
  | .requestFileTransfer _ _ _ _ => kSIDRequestFileTransfer
  | .transferData _ _ => kSIDTransferData
  | .requestTransferExit => kSIDRequestTransferExit
  | .ecuReset _ => kSIDEcuReset

/-- A client that is connected to the server: while a call waits, the server is polled. -/
structure Connected (B : Build) (σ : Type) where
  client : UdsClient σ
  server : σ → Sys
  polls : Call → σ → List Poll
  path : ∀ p k, PollPath B (server k) (polls p k) (server (client p k).2)

/-- What is documented of the calls: a call returns after a positive response of its service, and
it raises a timeout if there is no response. -/
structure Connected.Documented (j : Connected B σ) : Prop where
  positive : ∀ p k reply, (j.client p k).1 = .ok reply →
    ∃ r ∈ sentBy (j.polls p k), r.head? = some (p.sid + 0x40)
  timeout : ∀ p k, sentBy (j.polls p k) = [] → (j.client p k).1 = .error .timeout

/-! ### What every call keeps -/

/-- Every call keeps the property of the session, and it does not depend on the opened file. -/
structure KeptByCalls (c : UdsClient σ) (I : Session σ → Prop) : Prop where
  call : ∀ p, Triple I (call c p) (fun _ => I) fun _ => I
  file : ∀ s contents, I s → I { s with fileApp := contents }

namespace KeptByCalls

variable {I : Session σ → Prop}

theorem ofExcept {α : Type} (r : Except PyExc α) :
    Triple I (ofExcept r) (fun _ => I) fun _ => I := by
  rintro s hs r t ⟨⟩
  cases r <;> exact hs

theorem readFile (h : KeptByCalls c I) (size : ℤ) :
    Triple I (readFile size) (fun _ => I) fun _ => I := by
  intro s hs r t hread
  unfold EcuUpgrade.readFile at hread
  split_ifs at hread <;> cases hread
  · exact h.file _ _ hs
  · exact h.file _ _ hs
  · exact hs

theorem openApp (h : KeptByCalls c I) : Triple I (openApp m) (fun _ => I) fun _ => I := by
  refine (ofExcept m.app).bind fun contents => ?_
  refine Triple.bind (Q := fun _ => I) ?_ fun _ => ?_
  · rintro s hs r t ⟨⟩
    exact h.file s contents hs
  · cases m.progressCb with
    | none => exact .pure _ fun _ h => h
    | some cb => exact ofExcept (cb 5)

theorem prepareEcu (h : KeptByCalls c I) : Triple I (prepareEcu c m) (fun _ => I) fun _ => I := by
  refine (h.call _).bind fun _ => (h.call _).bind fun response => ?_
  split_ifs
  · exact .raise _ fun _ h => h
  · exact (h.call _).bind fun _ => (h.call _).bind fun _ => (h.call _).bind fun _ =>
      .pure _ fun _ h => h

theorem transferFile (h : KeptByCalls c I) :
    Triple I (transferFile c m app fuel) (fun _ => I) fun _ => I := by
  have hround (sequenceNumber : UInt8) (data : Bytes) :
      Triple I (transferDataRound c sequenceNumber data) (AfterRound I fun _ => I) fun _ => I := by
    refine Triple.tryCatch (E := fun _ => I) ?_ fun e => ?_
    · exact (h.call _).bind fun _ => .pure _ fun _ h => h
    · split_ifs
      · exact .pure _ fun _ h => h
      · exact .raise _ fun _ h => h
  refine Triple.bind (Q := fun _ => I) ?_ fun _ => (h.call _).bind fun _ => .pure _ fun _ h => h
  refine (ofExcept m.filesize).bind fun filesize => (h.call _).bind fun response => ?_
  dsimp only
  split_ifs
  · exact .raise _ fun _ h => h
  · exact Triple.forM_range (I := fun _ => I) _ fun index _ =>
      (h.readFile _).bind fun data => .loop (hround _ data) fuel

theorem upgradeEcu (h : KeptByCalls c I) :
    Triple I (upgradeEcu c m fuel) (fun _ => I) fun _ => I := by
  have hround : Triple I (pollRound c) (AfterRound I fun _ => I) fun _ => I := by
    refine (h.call _).bind fun response => ?_
    cases response.routineStatusRecord with
    | nil => exact .raise _ fun _ h => h
    | cons ret rest =>
      refine .pure _ fun s hs => ?_
      split_ifs <;> exact hs
  exact (ofExcept m.md5).bind fun md5 => (h.call _).bind fun _ => (h.call _).bind fun _ =>
    (Triple.loop hround fuel).bind fun _ => (h.call _).bind fun _ => .pure _ fun _ h => h

end KeptByCalls

/-- The statements of the `try` block. -/
def socBody (c : UdsClient σ) (m : Machine) (app : Bytes) (fuel : ℕ) :
    Prog (Session σ) PyExc (Bool × String) := do
  openApp m
  prepareEcu c m
  transferFile c m app fuel
  upgradeEcu c m fuel
  pure (true, "")

theorem KeptByCalls.socBody {I : Session σ → Prop} (h : KeptByCalls c I) :
    Triple I (socBody c m app fuel) (fun _ => I) fun _ => I :=
  h.openApp.bind fun _ => h.prepareEcu.bind fun _ => h.transferFile.bind fun _ =>
    h.upgradeEcu.bind fun _ => .pure _ fun _ h => h

/-- The outcome of the `finally` block: an exception of its call replaces that of the body. -/
theorem programSoc_cases {s t : Session σ} {r : Except PyExc (Bool × String)}
    (h : programSoc c m app fuel s = some (r, t)) : ∃ r' u reply,
      socBody c m app fuel s = some (r', u) ∧
      (c (.changeSession defaultSession) u.client).1 = reply ∧
      t.log = u.log ++ [(.changeSession defaultSession, reply)] ∧
      ((∃ e, reply = .error e ∧ r = .error e) ∨ ((∃ a, reply = .ok a) ∧ r = r')) := by
  have hbody : programSoc c m app fuel =
      Prog.tryFinally (socBody c m app fuel) (call c (.changeSession defaultSession)) := by
    unfold programSoc
    rw [tryCatch_raise]
    rfl
  rw [hbody] at h
  unfold Prog.tryFinally at h
  cases hrun : socBody c m app fuel s with
  | none =>
    rw [hrun] at h
    cases h
  | some p =>
    obtain ⟨r', u⟩ := p
    rw [hrun] at h
    dsimp only [call] at h
    refine ⟨r', u, _, rfl, rfl, ?_⟩
    cases hreply : (c (.changeSession defaultSession) u.client).1 with
    | error e =>
      rw [hreply] at h
      obtain ⟨rfl, rfl⟩ : .error e = r ∧ _ = t := by simpa using h
      exact ⟨rfl, .inl ⟨e, rfl, rfl⟩⟩
    | ok a =>
      rw [hreply] at h
      obtain ⟨rfl, rfl⟩ : r' = r ∧ _ = t := by simpa using h
      exact ⟨rfl, .inr ⟨⟨a, rfl⟩, rfl⟩⟩

/-! ### Against the server -/

/-- A call of the session has confirmed the reset. -/
def ResetConfirmed (log : List Entry) : Prop :=
  ∃ reply, (.ecuReset hardReset, .ok reply) ∈ log

/-- If the reset has been confirmed, the server is silent. -/
structure SilentAfterReset (j : Connected B σ) (s : Session σ) : Prop where
  server : ConfirmsDeaf (j.server s.client)
  silent : ResetConfirmed s.log → Silent (j.server s.client)

/-- **Every call leaves the server silent if it has confirmed the reset.** -/
theorem Connected.Documented.keptByCalls {j : Connected B σ} (hj : j.Documented) :
    KeptByCalls j.client (SilentAfterReset j) where
  file _ _ h := ⟨h.server, h.silent⟩
  call p := by
    rintro s ⟨hserver, hsilent⟩ r t h
    have hpath := j.path p s.client
    obtain ⟨hserver', hconfirmed⟩ := hserver.path hpath
    obtain ⟨hr, rfl⟩ := Prod.mk.inj (Option.some.inj h)
    have ht : SilentAfterReset j { s with
        client := (j.client p s.client).2
        log := s.log ++ [(p, (j.client p s.client).1)] } := by
      refine ⟨hserver', ?_⟩
      rintro ⟨reply, hreply⟩
      rcases List.mem_append.1 hreply with hbefore | hcall
      · exact ((hsilent ⟨reply, hbefore⟩).path hpath).2
      · obtain ⟨rfl, hok⟩ := Prod.mk.inj (List.mem_singleton.1 hcall)
        exact hconfirmed (hj.positive _ _ reply hok.symm)
    cases r with
    | ok a => exact ht
    | error e => exact ht

/-- **Against the server, `ProgramSoc` never returns.** Once the server has confirmed the reset, the
last step of an upgrade, the outcome is the timeout of the `finally` block. -/
theorem programSoc_fails {j : Connected B σ} (hj : j.Documented) {tr : List Poll} {k : σ}
    (hrun : PollRun B tr (j.server k)) {r : Except PyExc (Bool × String)} {t : Session σ}
    (h : programSoc j.client m app fuel ⟨k, [], []⟩ = some (r, t)) :
    (∀ result, r ≠ .ok result) ∧ (ResetConfirmed t.log → r = .error .timeout) := by
  have hstart : SilentAfterReset j ⟨k, [], []⟩ :=
    ⟨hrun.confirmsDeaf, fun ⟨_, hreply⟩ => by cases hreply⟩
  obtain ⟨r', u, reply, hbody, hcall, hlog, hr⟩ := programSoc_cases h
  have hu : SilentAfterReset j u := by
    have hout := hj.keptByCalls.socBody _ hstart _ _ hbody
    cases r' with
    | ok a => exact hout
    | error e => exact hout
  have htimeout (hconfirmed : ResetConfirmed u.log) : r = .error .timeout := by
    have hreply : reply = .error .timeout :=
      hcall.symm.trans (hj.timeout _ _ ((hu.silent hconfirmed).path (j.path _ _)).1)
    rcases hr with ⟨e, he, rfl⟩ | ⟨⟨a, ha⟩, -⟩
    · exact congrArg Except.error (Except.error.inj (he.symm.trans hreply))
    · cases ha.symm.trans hreply
  refine ⟨?_, ?_⟩
  · rintro result rfl
    obtain rfl : .ok result = r' := by
      rcases hr with ⟨e, -, herror⟩ | ⟨-, heq⟩
      · cases herror
      · exact heq
    obtain ⟨⟨⟩, s₁, -, hbody⟩ := bind_eq_ok_iff.1 hbody
    obtain ⟨⟨⟩, s₂, -, hbody⟩ := bind_eq_ok_iff.1 hbody
    obtain ⟨⟨⟩, s₃, -, hbody⟩ := bind_eq_ok_iff.1 hbody
    obtain ⟨⟨⟩, s₄, hupgrade, hbody⟩ := bind_eq_ok_iff.1 hbody
    obtain ⟨-, rfl⟩ : (true, "") = result ∧ s₄ = u := by simpa using hbody
    obtain ⟨md5, polls, r₁, r₂, r₃, r₄, b, -, -, -, hlog₄⟩ := upgradeEcu_log hupgrade
    cases htimeout ⟨r₄, by rw [hlog₄]; simp⟩
  · rintro ⟨a, ha⟩
    rw [hlog] at ha
    rcases List.mem_append.1 ha with hbefore | hlast
    · exact htimeout ⟨a, hbefore⟩
    · cases List.mem_singleton.1 hlast

/-! ### A joint run -/

/-- The server, and the time at which the client makes its next call. -/
structure Bench where
  server : Sys
  now : ℕ

/-- An environment in which everything succeeds, the upgrade included, and in which the sum of the
stored file is that of the single byte `a`. -/
def benchEnv (now : ℕ) : Env :=
  { Env.fair now with
    md5Text := some (ascii ['0', 'c', 'c', '1', '7', '5', 'b', '9', 'c', '0', 'f', '1', 'b', '6',
      'a', '8', '3', '1', 'c', '3', '9', '9', 'e', '2', '6', '9', '7', '7', '2', '6', '6', '1',
      ' ', ' ', 'a'])
    upgradeEnds := true }

/-- A poll that receives the message and another one after the time to answer. -/
def Bench.transact (B : Build) (b : Bench) (message : Bytes) : List Poll × Bench :=
  if h : message.length ≤ 65535 then
    match b.server.polls B [(benchEnv b.now, benchEnv b.now, .ofBytes message h fun _ => 0),
      (benchEnv (b.now + 100), benchEnv (b.now + 100), .ofBytes [] (by simp) fun _ => 0)] with
    | some (tr, server) => (tr, ⟨server, b.now + 200⟩)
    | none => ([], b)
  else ([], b)

/-- The messages of a call, each made from the response to the one before. -/
def Call.messages : Call → List (Bytes → Bytes)
  | .changeSession session => [fun _ => [kSIDDiagnosticSessionControl, session]]
  | .startRoutine id data => [fun _ => [kSIDRoutineControl, 1] ++ toBytes 2 id.toNat ++ data]
  | .getRoutineResult id => [fun _ => [kSIDRoutineControl, 3] ++ toBytes 2 id.toNat]
  | .unlockSecurityAccess level => [fun _ => [kSIDSecurityAccess, level], fun response =>
      [kSIDSecurityAccess, level + 1] ++
        toBytes 4 (seedToKey (word32 fun i => response.getD (2 + i) 0) learmask).toNat]
  | .writeDataByIdentifier did value =>
      [fun _ => [kSIDWriteDataByIdentifier] ++ toBytes 2 did.toNat ++ value]
  | .requestFileTransfer moop path dfi filesize => [fun _ => [kSIDRequestFileTransfer, moop] ++
      toBytes 2 path.length ++ path ++ [dfi, 8] ++ toBytes 8 filesize ++ toBytes 8 filesize]
  | .transferData sequenceNumber data => [fun _ => [kSIDTransferData, sequenceNumber] ++ data]
  | .requestTransferExit => [fun _ => [kSIDRequestTransferExit]]
  | .ecuReset resetType => [fun _ => [kSIDEcuReset, resetType]]

/-- The messages are sent one after the other, as long as the responses are positive. -/
def Bench.converse (B : Build) (sid : UInt8) :
    List (Bytes → Bytes) → Bytes → Bench → List Poll × Except PyExc Reply × Bench
  | [], response, b => ([], .ok ⟨response.drop 4, ofBytes ((response.drop 3).take 2)⟩, b)
  | message :: rest, response, b =>
    let (tr, b) := b.transact B (message response)
    match sentBy tr with
    | [] => (tr, .error .timeout, b)
    | response :: _ =>
      if response.head? = some (sid + 0x40) then
        let (tr', reply, b) := Bench.converse B sid rest response b
        (tr ++ tr', reply, b)
      else (tr, .error .other, b)

theorem Bench.transact_path (b : Bench) (message : Bytes) :
    PollPath B b.server (b.transact B message).1 (b.transact B message).2.server := by
  unfold Bench.transact
  split_ifs
  · split
    · next h => exact Sys.polls_path h
    · exact .nil _
  · exact .nil _

theorem sentBy_append (tr tr' : List Poll) : sentBy (tr ++ tr') = sentBy tr ++ sentBy tr' := by
  simp [sentBy]

/-- What becomes of the next message: it is not answered, it is answered positively and the
conversation goes on, or it is answered otherwise. -/
theorem Bench.converse_cons (sid : UInt8) (message : Bytes → Bytes) (rest : List (Bytes → Bytes))
    (response : Bytes) (b : Bench) : ∃ tr b', b.transact B (message response) = (tr, b') ∧
      ((sentBy tr = [] ∧
          b.converse B sid (message :: rest) response = (tr, .error .timeout, b')) ∨
        (∃ r ∈ sentBy tr, ∃ tr' reply b'', r.head? = some (sid + 0x40) ∧
          b'.converse B sid rest r = (tr', reply, b'') ∧
          b.converse B sid (message :: rest) response = (tr ++ tr', reply, b'')) ∨
        (sentBy tr ≠ [] ∧
          b.converse B sid (message :: rest) response = (tr, .error .other, b'))) := by
  rw [Bench.converse]
  generalize b.transact B (message response) = next
  obtain ⟨tr, b'⟩ := next
  refine ⟨tr, b', rfl, ?_⟩
  dsimp only
  cases hsent : sentBy tr with
  | nil => exact .inl ⟨rfl, rfl⟩
  | cons r more =>
    by_cases hhead : r.head? = some (sid + 0x40)
    · exact .inr (.inl ⟨r, by simp, _, _, _, hhead, rfl, if_pos hhead⟩)
    · exact .inr (.inr ⟨by simp, if_neg hhead⟩)

theorem Bench.converse_path (sid : UInt8) (messages : List (Bytes → Bytes)) (response : Bytes)
    (b : Bench) : PollPath B b.server (b.converse B sid messages response).1
      (b.converse B sid messages response).2.2.server := by
  induction messages generalizing response b with
  | nil => exact .nil _
  | cons message rest ih =>
    obtain ⟨tr, b', htransact, hcases⟩ := b.converse_cons (B := B) sid message rest response
    have hpath := b.transact_path (B := B) (message response)
    rw [htransact] at hpath
    rcases hcases with ⟨-, heq⟩ | ⟨r, -, tr', reply, b'', -, hrest, heq⟩ | ⟨-, heq⟩
    · rw [heq]
      exact hpath
    · have hpath' := ih r b'
      rw [hrest] at hpath'
      rw [heq]
      exact Runs.Path.append_iff.2 ⟨_, hpath, hpath'⟩
    · rw [heq]
      exact hpath

/-- A conversation of at least one message is as it is documented. -/
theorem Bench.converse_documented (sid : UInt8) (message : Bytes → Bytes)
    (rest : List (Bytes → Bytes)) (response : Bytes) (b : Bench) :
    (∀ reply, (b.converse B sid (message :: rest) response).2.1 = .ok reply →
      ∃ r ∈ sentBy (b.converse B sid (message :: rest) response).1,
        r.head? = some (sid + 0x40)) ∧
      (sentBy (b.converse B sid (message :: rest) response).1 = [] →
        (b.converse B sid (message :: rest) response).2.1 = .error .timeout) := by
  obtain ⟨tr, b', -, ⟨hsent, heq⟩ | ⟨r, hr, tr', reply, b'', hhead, -, heq⟩ | ⟨hsent, heq⟩⟩ :=
    b.converse_cons (B := B) sid message rest response
  · rw [heq]
    exact ⟨fun reply h => (by cases h), fun _ => rfl⟩
  · rw [heq, sentBy_append]
    refine ⟨fun _ _ => ⟨r, List.mem_append_left _ hr, hhead⟩, fun hnone => ?_⟩
    rw [List.append_eq_nil_iff.1 hnone |>.1] at hr
    cases hr
  · rw [heq]
    exact ⟨fun reply h => (by cases h), fun hnone => absurd hnone hsent⟩

/-- The client of the bench. -/
def benchClient (B : Build) : Connected B Bench where
  client p b := (Bench.converse B p.sid p.messages [] b).2
  server := Bench.server
  polls p b := (Bench.converse B p.sid p.messages [] b).1
  path p b := Bench.converse_path p.sid p.messages [] b

theorem documented_benchClient : (benchClient B).Documented := by
  have hmessages (p : Call) : ∃ message rest, p.messages = message :: rest := by
    cases p <;> exact ⟨_, _, rfl⟩
  constructor
  · intro p b reply h
    obtain ⟨message, rest, heq⟩ := hmessages p
    dsimp only [benchClient] at h ⊢
    rw [heq] at h ⊢
    exact (Bench.converse_documented _ _ _ _ _).1 reply h
  · intro p b h
    obtain ⟨message, rest, heq⟩ := hmessages p
    dsimp only [benchClient] at h ⊢
    rw [heq] at h ⊢
    exact (Bench.converse_documented _ _ _ _ _).2 h

/-- A machine with a file of the single byte `a` and its sum. -/
def benchMachine : Machine where
  app := .ok (ascii ['a'])
  progressCb := none
  fp := [0x24, 0x01, 0x31]
  filesize := .ok 1
  md5Text := .ok ['0', 'c', 'c', '1', '7', '5', 'b', '9', 'c', '0', 'f', '1', 'b', '6',
      'a', '8', '3', '1', 'c', '3', '9', '9', 'e', '2', '6', '9', '7', '7', '2', '6', '6', '1',
      ' ', ' ', 'a']

/-- The bench two seconds after start-up. -/
def startedBench : Bench := ⟨udsServerInit (.fair 0) fun _ => none, 2000⟩

/-- Every step of the upgrade succeeds: all calls up to the confirmed reset return, the checksum and
the upgrade routine report success, the file is stored and its upgrade has been started and is
finished. -/
def UpgradeSucceeds (t : Session Bench) : Prop :=
  (∀ e ∈ t.log.dropLast, e.2.isOk = true) ∧ ResetConfirmed t.log ∧
    LastReports t.log (Call.starts 0x0202) 0 ∧ LastReports t.log (Call.polls 0xFF02) 0 ∧
    t.client.server.fs (ascii ['/', 't', 'm', 'p', '/', 'a']) = some (ascii ['a']) ∧
    t.client.server.app.upgradeThread = true ∧ t.client.server.app.upgrading = false

instance (log : List Entry) : Decidable (ResetConfirmed log) :=
  decidable_of_iff (log.any (fun e => e.1 = .ecuReset hardReset && e.2.isOk) = true) (by
    unfold ResetConfirmed
    simp only [List.any_eq_true, Bool.and_eq_true, decide_eq_true_eq]
    constructor
    · rintro ⟨⟨p, r⟩, he, rfl, hr⟩
      cases r with
      | ok reply => exact ⟨reply, he⟩
      | error e => cases hr
    · rintro ⟨reply, he⟩
      exact ⟨_, he, rfl, rfl⟩)

instance (t : Session Bench) : Decidable (UpgradeSucceeds t) :=
  inferInstanceAs (Decidable (_ ∧ _ ∧ _ ∧ _ ∧ _ ∧ _ ∧ _))

/-- An upgrade that succeeds in all its steps ends with the timeout. -/
theorem programSoc_fails_bench : ∃ t, UpgradeSucceeds t ∧
    programSoc (benchClient ⟨4095, .test⟩).client benchMachine (ascii ['a']) 3
      ⟨startedBench, [], []⟩ = some (.error .timeout, t) := by
  obtain ⟨r, t, hrun, ht⟩ := exists_outcome
    (programSoc (benchClient ⟨4095, .test⟩).client benchMachine (ascii ['a']) 3)
    ⟨startedBench, [], []⟩ (fun _ t => UpgradeSucceeds t) (by decide +kernel)
  obtain rfl := (programSoc_fails documented_benchClient
    (.start ⟨.fair 0, fun _ => none, rfl⟩ : PollRun _ [] startedBench.server) hrun).2 ht.2.1
  exact ⟨t, ht, hrun⟩

/-- A successful upgrade is not reported as a success. -/
theorem programSoc_not_successful : ¬∀ (j : Connected ⟨4095, .test⟩ Bench), j.Documented →
    ∀ tr k, PollRun ⟨4095, .test⟩ tr (j.server k) → ∀ m app fuel r t,
      programSoc j.client m app fuel ⟨k, [], []⟩ = some (r, t) → UpgradeSucceeds t →
        r = .ok (true, "") := by
  intro hclaim
  obtain ⟨r, t, hrun, ht, hfailed⟩ := exists_outcome
    (programSoc (benchClient ⟨4095, .test⟩).client benchMachine (ascii ['a']) 3)
    ⟨startedBench, [], []⟩ (fun r t => UpgradeSucceeds t ∧ r ≠ .ok (true, ""))
    (by decide +kernel)
  exact hfailed (hclaim _ documented_benchClient [] startedBench
    (.start ⟨.fair 0, fun _ => none, rfl⟩) _ _ _ _ _ hrun ht)

end EcuUpgrade
