import EcuUpgrade.Client.ProgramSoc

/-!
# The verdict of `ProgramSoc`

`ProgramSoc` reports success for every run in which no call raises. Of the three routines that
report a status it looks at the first byte for the precondition only; the status of the checksum
routine is read and not used, and the polling of the upgrade routine ends with any byte but the
one for "running". The record of the calls tells what the server had reported.

## Main definitions

* `Reports`: a call was answered with a given first status byte.
* `LastReports`: the last call of some kind was.
* `NoFailureReported`: no answer of the checksum and the upgrade routine tells of a failure.

## Main results

* `programSoc_log`: the record of a run that returned.
* `verdict_sound_iff`: the verdict is sound exactly when no failure was reported.
-/

namespace EcuUpgrade

open Programs Programs.Prog

variable {σ : Type} {c : UdsClient σ} {m : Machine} {app : Bytes} {fuel : ℕ}

/-- A call with its outcome. -/
abbrev Entry : Type := Call × Except PyExc Reply

/-- A call was answered with a given first status byte. -/
def Reports (r : Except PyExc Reply) (b : UInt8) : Prop :=
  ∃ reply, r = .ok reply ∧ reply.routineStatusRecord.head? = some b

/-- The call starts a routine. -/
def Call.starts (id : UInt16) : Call → Bool
  | .startRoutine id' _ => id' == id
  | _ => false

/-- The call asks for the result of a routine. -/
def Call.polls (id : UInt16) : Call → Bool
  | .getRoutineResult id' => id' == id
  | _ => false

/-- The outcomes of the calls of some kind, in order. -/
def outcomes (log : List Entry) (kind : Call → Bool) : List (Except PyExc Reply) :=
  (log.filter fun e => kind e.1).map Prod.snd

/-- The last call of some kind was answered with a given first status byte. -/
def LastReports (log : List Entry) (kind : Call → Bool) (b : UInt8) : Prop :=
  ∃ r, (outcomes log kind).getLast? = some r ∧ Reports r b

/-- No answer tells of a failure: the checksum routine reports `0`, and the upgrade routine `0` or,
for "running", `2`. -/
def NoFailureReported (log : List Entry) : Prop :=
  ∀ e ∈ log, (e.1.starts 0x0202 → Reports e.2 0) ∧
    (e.1.polls 0xFF02 → Reports e.2 0 ∨ Reports e.2 2)

theorem reports_ok {reply : Reply} {b : UInt8} :
    Reports (.ok reply) b ↔ reply.routineStatusRecord.head? = some b := by
  simp [Reports]

instance : ∀ (r : Except PyExc Reply) (b : UInt8), Decidable (Reports r b)
  | .ok _, _ => decidable_of_iff _ reports_ok.symm
  | .error _, _ => isFalse (by simp [Reports])

instance (log : List Entry) (kind : Call → Bool) (b : UInt8) :
    Decidable (LastReports log kind b) :=
  decidable_of_iff (((outcomes log kind).getLast?.any fun r => decide (Reports r b)) = true) (by
    simp [LastReports, Option.any_eq_true])

instance (log : List Entry) : Decidable (NoFailureReported log) :=
  inferInstanceAs (Decidable (∀ e ∈ log, _))

/-! ### Records -/

@[simp] theorem outcomes_append (l l' : List Entry) (kind : Call → Bool) :
    outcomes (l ++ l') kind = outcomes l kind ++ outcomes l' kind := by
  simp [outcomes]

/-- Since the record `l`, only calls of the file transfer have been made. -/
def Transferring (l : List Entry) (s : Session σ) : Prop :=
  ∃ seg, s.log = l ++ seg ∧ ∀ e ∈ seg, e.1.isTransfer = true

/-- Since the record `l`, only answers "running" of the upgrade routine have been added. -/
def Polling (l : List Entry) (s : Session σ) : Prop :=
  ∃ polls, s.log = l ++ polls ∧ ∀ e ∈ polls, e.1 = .getRoutineResult 0xFF02 ∧ Reports e.2 2

/-- A call that returned. -/
theorem call_ok {p : Call} {s t : Session σ} {reply : Reply}
    (h : call c p s = some (.ok reply, t)) :
    t.log = s.log ++ [(p, .ok reply)] ∧ t.fileApp = s.fileApp := by
  simp only [call, Option.some.injEq, Prod.mk.injEq] at h
  obtain ⟨hreply, rfl⟩ := h
  rw [hreply]
  exact ⟨rfl, rfl⟩

theorem triple_call_transfer {l : List Entry} {p : Call} (hp : p.isTransfer = true) :
    Triple (Transferring l) (call c p) (fun _ => Transferring l) fun _ => Transferring l := by
  rintro s ⟨seg, hlog, hseg⟩ r t h
  simp only [call, Option.some.injEq, Prod.mk.injEq] at h
  obtain ⟨-, rfl⟩ := h
  have ht : Transferring l { s with
      client := (c p s.client).2, log := s.log ++ [(p, (c p s.client).1)] } := by
    refine ⟨seg ++ [(p, (c p s.client).1)], by simp [hlog], fun e he => ?_⟩
    rcases List.mem_append.1 he with he | he
    · exact hseg e he
    · rw [List.mem_singleton.1 he]
      exact hp
  cases r with
  | ok a => exact ht
  | error e => exact ht

theorem triple_readFile {l : List Entry} (size : ℤ) :
    Triple (Transferring l) (readFile size : Prog (Session σ) PyExc Bytes)
      (fun _ => Transferring l) fun _ => Transferring l := by
  intro s hs r t h
  unfold readFile at h
  split_ifs at h <;> cases h <;> exact hs

theorem triple_transferDataRound {l : List Entry} (sequenceNumber : UInt8) (data : Bytes) :
    Triple (Transferring l) (transferDataRound c sequenceNumber data)
      (AfterRound (Transferring l) fun _ => Transferring l) fun _ => Transferring l := by
  refine Triple.tryCatch (E := fun _ => Transferring l) ?_ fun e => ?_
  · exact (triple_call_transfer rfl).bind fun _ => .pure _ fun _ h => h
  · split_ifs
    · exact .pure _ fun _ h => h
    · exact .raise _ fun _ h => h

theorem triple_transferFile (l : List Entry) :
    Triple (Transferring l) (transferFile c m app fuel) (fun _ => Transferring l)
      fun _ => Transferring l := by
  refine Triple.bind (Q := fun _ => Transferring l) ?_ fun _ => ?_
  · unfold transferBlocks
    refine Triple.bind (Q := fun _ => Transferring l) ?_ fun filesize => ?_
    · rintro s hs r t ⟨⟩
      cases m.filesize <;> exact hs
    refine (triple_call_transfer rfl).bind fun response => ?_
    dsimp only
    split_ifs
    · exact .raise _ fun _ h => h
    · refine Triple.forM_range (I := fun _ => Transferring l) _ fun index _ => ?_
      exact (triple_readFile _).bind fun data => .loop (triple_transferDataRound _ data) fuel
  · exact (triple_call_transfer rfl).bind fun _ => .pure _ fun _ h => h

theorem triple_pollLoop (l : List Entry) :
    Triple (Polling l) (loop fuel (pollRound c))
      (fun _ t => ∃ s : Session σ, Polling l s ∧ ∃ reply b, t.log = s.log ++
        [(.getRoutineResult 0xFF02, .ok reply)] ∧ reply.routineStatusRecord.head? = some b ∧ b ≠ 2)
      fun _ _ => True := by
  refine Triple.loop (I := Polling l) ?_ fuel
  rintro s ⟨polls, hlog, hpolls⟩ r t h
  cases r with
  | error e => trivial
  | ok a =>
    obtain ⟨reply, u, hcall, hround⟩ := bind_eq_ok_iff.1 h
    obtain ⟨hu, -⟩ := call_ok hcall
    rcases hrecord : reply.routineStatusRecord with _ | ⟨ret, rest⟩
    · rw [hrecord] at hround
      cases hround
    · rw [hrecord] at hround
      dsimp only at hround
      have hhead : reply.routineStatusRecord.head? = some ret := by rw [hrecord, List.head?_cons]
      split_ifs at hround with hret
      · cases hround
        exact ⟨s, ⟨polls, hlog, hpolls⟩, reply, ret, hu, hhead, hret⟩
      · cases hround
        refine ⟨polls ++ [(.getRoutineResult 0xFF02, .ok reply)],
          by rw [hu, hlog, List.append_assoc], fun e he => ?_⟩
        rcases List.mem_append.1 he with he | he
        · exact hpolls e he
        · rw [List.mem_singleton.1 he]
          exact ⟨rfl, reply, rfl, by rw [hhead, not_not.1 hret]⟩

/-! ### Returning runs -/

theorem openApp_log {s t : Session σ} (h : openApp m s = some (.ok (), t)) : t.log = s.log := by
  obtain ⟨contents, u, hopen, hrest⟩ := bind_eq_ok_iff.1 h
  obtain ⟨⟨⟩, v, hread, hprogress⟩ := bind_eq_ok_iff.1 hrest
  obtain ⟨-, rfl⟩ : _ ∧ s = u := by simpa using hopen
  obtain rfl : _ = v := by simpa using hread
  cases hcb : m.progressCb with
  | none =>
    rw [hcb] at hprogress
    cases hprogress
    rfl
  | some cb =>
    rw [hcb] at hprogress
    obtain ⟨-, rfl⟩ : _ ∧ _ = t := by simpa using hprogress
    rfl

/-- The preparation of the ECU returns only if the precondition routine reports `0`. -/
theorem prepareEcu_log {s t : Session σ} (h : prepareEcu c m s = some (.ok (), t)) :
    ∃ r₀ r₁ r₂ r₃ r₄ : Reply, r₁.routineStatusRecord.head? = some 0 ∧ t.log = s.log ++
      [(.changeSession extendedDiagnosticSession, .ok r₀), (.startRoutine 0x0203 [], .ok r₁),
        (.changeSession programmingSession, .ok r₂), (.unlockSecurityAccess 5, .ok r₃),
        (.writeDataByIdentifier 0xF15A m.fp, .ok r₄)] := by
  obtain ⟨r₀, s₀, h₀, h⟩ := bind_eq_ok_iff.1 h
  obtain ⟨r₁, s₁, h₁, h⟩ := bind_eq_ok_iff.1 h
  split_ifs at h with hstatus
  · cases h
  obtain ⟨r₂, s₂, h₂, h⟩ := bind_eq_ok_iff.1 h
  obtain ⟨r₃, s₃, h₃, h⟩ := bind_eq_ok_iff.1 h
  obtain ⟨r₄, s₄, h₄, h⟩ := bind_eq_ok_iff.1 h
  obtain rfl : s₄ = t := by simpa using h
  refine ⟨r₀, r₁, r₂, r₃, r₄, not_not.1 hstatus, ?_⟩
  rw [(call_ok h₄).1, (call_ok h₃).1, (call_ok h₂).1, (call_ok h₁).1, (call_ok h₀).1]
  simp

/-- The upgrade routine is polled until it reports another byte than `2`. -/
theorem upgradeEcu_log {s t : Session σ} (h : upgradeEcu c m fuel s = some (.ok (), t)) :
    ∃ md5 polls, ∃ r₁ r₂ r₃ r₄ : Reply, ∃ b, (∀ e ∈ polls,
      e.1 = .getRoutineResult 0xFF02 ∧ Reports e.2 2) ∧
      r₃.routineStatusRecord.head? = some b ∧ b ≠ 2 ∧ t.log = s.log ++
      [(.startRoutine 0x0202 md5, .ok r₁), (.startRoutine 0xFF02 [], .ok r₂)] ++ polls ++
        [(.getRoutineResult 0xFF02, .ok r₃), (.ecuReset hardReset, .ok r₄)] := by
  obtain ⟨md5, s₀, h₀, h⟩ := bind_eq_ok_iff.1 h
  obtain ⟨-, rfl⟩ : _ ∧ s = s₀ := by simpa using h₀
  obtain ⟨r₁, s₁, h₁, h⟩ := bind_eq_ok_iff.1 h
  obtain ⟨r₂, s₂, h₂, h⟩ := bind_eq_ok_iff.1 h
  obtain ⟨⟨⟩, s₃, h₃, h⟩ := bind_eq_ok_iff.1 h
  obtain ⟨r₄, s₄, h₄, h⟩ := bind_eq_ok_iff.1 h
  obtain rfl : s₄ = t := by simpa using h
  have hstart : Polling s₂.log s₂ := ⟨[], by simp, by simp⟩
  obtain ⟨u, ⟨polls, hu, hpolls⟩, r₃, b, hlog, hhead, hb⟩ := (triple_pollLoop _).ok hstart h₃
  refine ⟨md5, polls, r₁, r₂, r₃, r₄, b, hpolls, hhead, hb, ?_⟩
  rw [(call_ok h₄).1, hlog, hu, (call_ok h₂).1, (call_ok h₁).1]
  simp

theorem outcomes_of_forall {l : List Entry} {kind : Call → Bool}
    (h : ∀ e ∈ l, kind e.1 = false) : outcomes l kind = [] := by
  rw [outcomes, List.filter_eq_nil_iff.2 fun e he => by simp [h e he], List.map_nil]

/-- **The record of a run that returned**: the verdict is `True`, the precondition routine reported
`0`, and the upgrade routine was polled until it reported another byte than `2`. -/
theorem programSoc_log {client : σ} {v : Bool × String} {t : Session σ}
    (h : programSoc c m app fuel ⟨client, [], []⟩ = some (.ok v, t)) :
    v = (true, "") ∧ ∃ pre chk res : Reply, ∃ polls b,
      outcomes t.log (Call.starts 0x0203) = [.ok pre] ∧
      pre.routineStatusRecord.head? = some 0 ∧ outcomes t.log (Call.starts 0x0202) = [.ok chk] ∧
      outcomes t.log (Call.polls 0xFF02) = polls ++ [.ok res] ∧ (∀ r ∈ polls, Reports r 2) ∧
      res.routineStatusRecord.head? = some b ∧ b ≠ 2 := by
  obtain ⟨u, r₅, hbody, hfinal⟩ := tryFinally_eq_ok_iff.1 h
  rw [tryCatch_raise] at hbody
  obtain ⟨⟨⟩, s₁, hopen, hbody⟩ := bind_eq_ok_iff.1 hbody
  obtain ⟨⟨⟩, s₂, hprepare, hbody⟩ := bind_eq_ok_iff.1 hbody
  obtain ⟨⟨⟩, s₃, htransfer, hbody⟩ := bind_eq_ok_iff.1 hbody
  obtain ⟨⟨⟩, s₄, hupgrade, hbody⟩ := bind_eq_ok_iff.1 hbody
  obtain ⟨rfl, rfl⟩ : (true, "") = v ∧ s₄ = u := by simpa using hbody
  obtain ⟨p₀, pre, p₂, p₃, p₄, hpre, hlog₂⟩ := prepareEcu_log hprepare
  obtain ⟨seg, hlog₃, hseg⟩ :=
    (triple_transferFile s₂.log).ok ⟨[], by simp, by simp⟩ htransfer
  obtain ⟨md5, polls, chk, q₂, res, q₄, b, hpolls, hres, hb, hlog₄⟩ := upgradeEcu_log hupgrade
  have hlog := (call_ok hfinal).1
  rw [hlog₄, hlog₃, hlog₂, openApp_log hopen] at hlog
  have hseg' (kind : Call → Bool) (hkind : ∀ p, p.isTransfer = true → kind p = false) :
      outcomes seg kind = [] := outcomes_of_forall fun e he => hkind e.1 (hseg e he)
  have hstarts (id : UInt16) : ∀ p : Call, p.isTransfer = true → p.starts id = false := by
    intro p hp
    cases p <;> first | rfl | cases hp
  have hpolls' (id : UInt16) : ∀ p : Call, p.isTransfer = true → p.polls id = false := by
    intro p hp
    cases p <;> first | rfl | cases hp
  have hnot (id : UInt16) : outcomes polls (Call.starts id) = [] :=
    outcomes_of_forall fun e he => by rw [(hpolls e he).1]; rfl
  have hall : outcomes polls (Call.polls 0xFF02) = polls.map Prod.snd := by
    rw [outcomes, List.filter_eq_self.2 fun e he => by rw [(hpolls e he).1]; rfl]
  refine ⟨rfl, pre, chk, res, polls.map Prod.snd, b, ?_, hpre, ?_, ?_, ?_, hres, hb⟩
  · rw [hlog]
    simp only [outcomes_append, hseg' _ (hstarts _), hnot]
    rfl
  · rw [hlog]
    simp only [outcomes_append, hseg' _ (hstarts _), hnot]
    rfl
  · rw [hlog]
    simp only [outcomes_append, hseg' _ (hpolls' _), hall]
    simp [outcomes, Call.polls]
  · rintro r hr
    obtain ⟨e, he, rfl⟩ := List.mem_map.1 hr
    exact (hpolls e he).2

/-! ### The verdict -/

/-- **A sound verdict**: success only if the precondition, the checksum and, at last, the upgrade
routine have reported success. -/
def VerdictSound (result : Bool) (log : List Entry) : Prop :=
  result = true → LastReports log (Call.starts 0x0203) 0 ∧
    LastReports log (Call.starts 0x0202) 0 ∧ LastReports log (Call.polls 0xFF02) 0

theorem noFailureReported_iff {log : List Entry} : NoFailureReported log ↔
    (∀ r ∈ outcomes log (Call.starts 0x0202), Reports r 0) ∧
      ∀ r ∈ outcomes log (Call.polls 0xFF02), Reports r 0 ∨ Reports r 2 := by
  simp only [NoFailureReported, outcomes, List.mem_map, List.mem_filter]
  constructor
  · intro h
    constructor
    · rintro r ⟨e, ⟨he, hkind⟩, rfl⟩
      exact (h e he).1 hkind
    · rintro r ⟨e, ⟨he, hkind⟩, rfl⟩
      exact (h e he).2 hkind
  · rintro ⟨hstarts, hpolls⟩ e he
    exact ⟨fun hkind => hstarts e.2 ⟨e, ⟨he, hkind⟩, rfl⟩,
      fun hkind => hpolls e.2 ⟨e, ⟨he, hkind⟩, rfl⟩⟩

/-- **When the verdict is sound.** A run that returns reports success, after the precondition
routine has; the verdict is sound if and only if the other two routines reported no failure. -/
theorem verdict_sound_iff {client : σ} {result : Bool} {reson : String} {t : Session σ}
    (h : programSoc c m app fuel ⟨client, [], []⟩ = some (.ok (result, reson), t)) :
    result = true ∧ LastReports t.log (Call.starts 0x0203) 0 ∧
      (VerdictSound result t.log ↔ NoFailureReported t.log) := by
  obtain ⟨hv, pre, chk, res, polls, b, hpre, hpre0, hchk, hres, hpolls, hb, hne⟩ :=
    programSoc_log h
  obtain ⟨rfl, -⟩ := Prod.mk.inj hv
  have hprecondition : LastReports t.log (Call.starts 0x0203) 0 :=
    ⟨.ok pre, by rw [hpre]; rfl, reports_ok.2 hpre0⟩
  have hchecksum : LastReports t.log (Call.starts 0x0202) 0 ↔
      chk.routineStatusRecord.head? = some 0 := by
    simp [LastReports, hchk, reports_ok]
  have hupgrade : LastReports t.log (Call.polls 0xFF02) 0 ↔ b = 0 := by
    simp [LastReports, hres, reports_ok, hb]
  refine ⟨rfl, hprecondition, ?_⟩
  rw [noFailureReported_iff, hchk, hres, VerdictSound, hchecksum, hupgrade]
  constructor
  · intro hsound
    obtain ⟨-, hchk0, rfl⟩ := hsound rfl
    refine ⟨fun r hr => ?_, fun r hr => ?_⟩
    · rw [List.mem_singleton.1 hr]
      exact reports_ok.2 hchk0
    · rcases List.mem_append.1 hr with hr | hr
      · exact .inr (hpolls r hr)
      · rw [List.mem_singleton.1 hr]
        exact .inl (reports_ok.2 hb)
  · rintro ⟨hchk0, hres0⟩ -
    refine ⟨hprecondition, reports_ok.1 (hchk0 _ (by simp)), ?_⟩
    rcases hres0 (.ok res) (by simp) with h0 | h2
    · simpa [hb] using reports_ok.1 h0
    · exact absurd (by simpa [hb] using reports_ok.1 h2) hne

/-- A client to which every call succeeds; the checksum and the upgrade routine report `status`. -/
def statusClient (status : UInt8) : UdsClient Unit := fun p _ =>
  let record : Bytes := match p with
    | .startRoutine id _ => if id = 0x0203 then [0] else [status]
    | .getRoutineResult _ => [status]
    | _ => []
  (.ok ⟨record, 1026⟩, ())

/-- A machine with an empty file. -/
def emptyMachine : Machine where
  app := .ok []
  progressCb := none
  fp := []
  filesize := .ok 0
  md5Text := .ok ['0', '0']

/-- The verdict of an upgrade in which both routines reported success. -/
theorem verdict_sound_success : ∃ t : Session Unit,
    programSoc (statusClient 0) emptyMachine [] 1 ⟨(), [], []⟩ = some (.ok (true, ""), t) ∧
      VerdictSound true t.log := by
  obtain ⟨r, t, hrun, rfl, hreported⟩ := exists_outcome
    (programSoc (statusClient 0) emptyMachine [] 1) ⟨(), [], []⟩
    (fun r t => r = .ok (true, "") ∧ NoFailureReported t.log) (by decide +kernel)
  exact ⟨t, hrun, (verdict_sound_iff hrun).2.2.2 hreported⟩

/-- The verdict is success although both routines reported the failure `1`. -/
theorem verdict_not_sound : ¬∀ (σ : Type) (c : UdsClient σ) (m : Machine) (app : Bytes) (fuel : ℕ)
    (client : σ) (result : Bool) (reson : String) (t : Session σ),
    programSoc c m app fuel ⟨client, [], []⟩ = some (.ok (result, reson), t) →
      VerdictSound result t.log := by
  intro hclaim
  obtain ⟨r, t, hrun, rfl, hfailed⟩ := exists_outcome
    (programSoc (statusClient 1) emptyMachine [] 1) ⟨(), [], []⟩
    (fun r t => r = .ok (true, "") ∧ ¬LastReports t.log (Call.starts 0x0202) 0) (by decide +kernel)
  exact hfailed (hclaim _ _ _ _ _ _ _ _ _ hrun rfl).2.1

end EcuUpgrade
