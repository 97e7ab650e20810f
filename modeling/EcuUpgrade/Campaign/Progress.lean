import EcuUpgrade.Campaign.Safety
import Mathlib.Data.DFinsupp.WellFounded
import Mathlib.Algebra.Order.Monoid.WithTop
import Mathlib.Order.Lattice.Nat

/-!
# Upgrades end

Every action that does something lowers a rank: a module that waits ranks above every module whose
job runs, a job that runs ranks by the calls of `is_running` that are left until it stops, and a
module that is done ranks lowest. A round without such an action finds all modules done, or none
in upgrading after an error, and sets `exit_upgrade`. The exception is a module whose job could not
be created: it stays in upgrading, every round raises when it comes to it, and the loop never ends.

## Main definitions

* `ModuleState.rank`, `Modules.rank`: the rank, in a product order that is well founded.
* `Modules.Jammed`: some module is in upgrading without a job.

## Main results

* `Modules.act_rank`: what an action does to the rank.
* `Modules.round_progress`: a round of an acyclic configuration lowers the rank, sets
  `exit_upgrade`, or ends jammed.
* `Modules.whileLoop_ends`: without a jam, the loop ends.
* `Modules.jammed_forever`: with one, it does not.
-/

namespace EcuUpgrade

open Programs Programs.Prog Runs Relation Schedules

variable {ν π : Type}

/-! ### The rank -/

/-- The job stops after finitely many calls of `is_running`. -/
def Job.Stops (job : Job) : Prop := ∃ k, job.isRunning k = .stopped

/-- How many calls of `is_running` come before the one that finds the job stopped. -/
noncomputable def Job.remaining (job : Job) : ℕ := sInf {k | job.isRunning k = .stopped}

theorem Job.Stops.next {job : Job} (h : job.Stops) (hrun : job.isRunning 0 ≠ .stopped) :
    job.next.Stops := by
  obtain ⟨k, hk⟩ := h
  cases k with
  | zero => exact absurd hk hrun
  | succ k => exact ⟨k, hk⟩

theorem Job.Stops.remaining_next {job : Job} (h : job.Stops)
    (hrun : job.isRunning 0 ≠ .stopped) : job.next.remaining + 1 = job.remaining := by
  have hpos : 1 ≤ sInf {k | job.isRunning k = .stopped} := by
    have hmem : job.isRunning (sInf {k | job.isRunning k = .stopped}) = .stopped := Nat.sInf_mem h
    by_contra hlt
    rw [show sInf {k | job.isRunning k = .stopped} = 0 by omega] at hmem
    exact hrun hmem
  exact Nat.sInf_add hpos

/-- The rank of a module. -/
noncomputable def ModuleState.rank (st : ModuleState) : WithTop ℕ :=
  if st.upgradeDone then 0
  else if st.inUpgrading then (st.upgradeJob.elim 1 fun job => job.remaining + 1 : ℕ)
  else ⊤

theorem ModuleState.rank_of_done {st : ModuleState} (h : st.upgradeDone = true) : st.rank = 0 := by
  simp [ModuleState.rank, h]

theorem ModuleState.Waiting.rank {st : ModuleState} (h : st.Waiting) : st.rank = ⊤ := by
  simp [ModuleState.rank, h.1, h.2]

theorem ModuleState.rank_of_job {st : ModuleState} {job : Job} (hdone : st.upgradeDone = false)
    (hup : st.inUpgrading = true) (hjob : st.upgradeJob = some job) :
    st.rank = (job.remaining + 1 : ℕ) := by
  simp [ModuleState.rank, hdone, hup, hjob]

theorem ModuleState.rank_lt_top {st : ModuleState} (hup : st.inUpgrading = true) : st.rank < ⊤ := by
  unfold ModuleState.rank
  split
  · exact WithTop.coe_lt_top 0
  · exact WithTop.coe_lt_top _

variable [DecidableEq ν]

namespace Modules

variable (ms : Modules ν π)

/-- The rank of a state: the ranks of the modules, and that of `upgrade_error`. -/
noncomputable def rank (s : Campaign ν) :
    Option {n // n ∈ ms.modules.map Module.name} → WithTop ℕ
  | none => if s.upgradeError then 0 else 1
  | some n => (s.modules n.1).rank

/-- Some module is in upgrading without a job. -/
def Jammed (s : Campaign ν) : Prop := ∃ m ∈ ms.modules, s.Stuck m.name

/-- The jobs that are asked stop. -/
def JobsStop (s : Campaign ν) : Prop := ∀ n job, s.Polls n job → job.Stops

/-- Nothing the rank depends on differs. -/
def Same (s t : Campaign ν) : Prop :=
  t.modules = s.modules ∧ t.upgradeError = s.upgradeError

variable {ms} {newJob : NewJob ν π} {s t u : Campaign ν}

omit [DecidableEq ν] in
theorem Same.rank_eq (h : Same s t) : ms.rank t = ms.rank s := by
  funext i
  cases i with
  | none => simp [rank, h.2]
  | some n => simp [rank, h.1]

omit [DecidableEq ν] in
/-- The rank falls with that of a module. -/
theorem rank_lt_of_module {n : ν} (hn : n ∈ ms.modules.map Module.name)
    (hmodules : ∀ k, k ≠ n → t.modules k = s.modules k)
    (herror : s.upgradeError = true → t.upgradeError = true)
    (hlt : (t.modules n).rank < (s.modules n).rank) : ms.rank t < ms.rank s := by
  refine Pi.lt_def.2 ⟨fun i => ?_, some ⟨n, hn⟩, hlt⟩
  cases i with
  | none =>
    cases hs : s.upgradeError with
    | false => cases ht : t.upgradeError <;> simp [rank, hs, ht]
    | true => simp [rank, hs, herror hs]
  | some k =>
    by_cases hk : k.1 = n
    · subst hk
      exact hlt.le
    · simp [rank, hmodules k.1 hk]

omit [DecidableEq ν] in
/-- The rank falls when `upgrade_error` is set. -/
theorem rank_lt_of_error (hmodules : t.modules = s.modules) (hs : s.upgradeError = false)
    (ht : t.upgradeError = true) : ms.rank t < ms.rank s := by
  refine Pi.lt_def.2 ⟨fun i => ?_, none, by simp [rank, hs, ht]⟩
  cases i with
  | none => simp [rank, hs, ht]
  | some n => simp [rank, hmodules]

/-! ### Actions and the rank -/

variable (newJob) in
/-- Every job that is created stops. -/
def NewJobsStop : Prop := ∀ log n config job, newJob log n config = some job → job.Stops

variable (ms) in
/-- The invariants that progress rests on. -/
structure Sound (s : Campaign ν) : Prop where
  orderly : ms.Orderly s
  jobsStop : JobsStop s

theorem Sound.wf (h : ms.Sound s) (n : ν) : (s.modules n).Wf := by
  obtain ⟨a, ha, -⟩ := h.orderly
  exact ha.wf n

/-- The rank falls when a job is asked that has not stopped. -/
theorem rank_lt_of_poll {m : Module ν π} {job : Job} (h : ms.Sound s) (hm : m ∈ ms.modules)
    (hpolls : s.Polls m.name job) (hrun : job.isRunning 0 ≠ .stopped)
    (hmodules : t.modules = (s.setJob m.name job.next).modules)
    (herror : s.upgradeError = true → t.upgradeError = true) : ms.rank t < ms.rank s := by
  refine rank_lt_of_module (List.mem_map_of_mem hm) (fun k hk => by simp [hmodules, hk]) herror ?_
  have hdone := (h.wf m.name).notDone hpolls.1
  have hnext : ((s.setJob m.name job.next).modules m.name).rank =
      (job.next.remaining + 1 : ℕ) :=
    ModuleState.rank_of_job (by simpa using hdone) (by simpa using hpolls.1) (by simp)
  rw [hmodules, hnext, ModuleState.rank_of_job hdone hpolls.1 hpolls.2,
    ← (h.jobsStop _ _ hpolls).remaining_next hrun]
  exact WithTop.coe_lt_coe.2 (Nat.lt_succ_self _)

/-- The rank falls when a job is found stopped. -/
theorem rank_lt_of_finish {m : Module ν π} {job : Job} (h : ms.Sound s) (hm : m ∈ ms.modules)
    (hpolls : s.Polls m.name job)
    (hmodules : t.modules =
      ((s.setJob m.name job.next).markFinished m.name job.isSuccess).modules)
    (herror : s.upgradeError = true → t.upgradeError = true) : ms.rank t < ms.rank s := by
  refine rank_lt_of_module (List.mem_map_of_mem hm) (fun k hk => by simp [hmodules, hk]) herror ?_
  rw [hmodules, ModuleState.rank_of_done (by simp),
    ModuleState.rank_of_job ((h.wf m.name).notDone hpolls.1) hpolls.1 hpolls.2]
  exact WithTop.coe_lt_coe.2 (Nat.succ_pos _)

/-- A module without a job stays without one. -/
theorem stuck_act {n : ν} (h : s.Stuck n) (hact : ms.Act newJob s t) : t.Stuck n := by
  cases hact with
  | assigned hmodules hlog herror => exact ⟨hmodules ▸ h.1, hmodules ▸ h.2⟩
  | @begun m job hready hjob =>
    have hn : n ≠ m.name := by
      rintro rfl
      exact absurd h.1 (by simp [hready.waiting.2])
    simpa [Campaign.Stuck, hn] using h
  | @creationRaised m hready hjob =>
    have hn : n ≠ m.name := by
      rintro rfl
      exact absurd h.1 (by simp [hready.waiting.2])
    simpa [Campaign.Stuck, hn] using h
  | recursionRaised d hm hwait hgoing => exact h
  | @stillRunning m job hm hpolls hrun =>
    have hn : n ≠ m.name := by
      rintro rfl
      exact absurd hpolls.2 (by simp [h.2])
    simpa [Campaign.Stuck, hn] using h
  | @finished m job hm hpolls hstop =>
    have hn : n ≠ m.name := by
      rintro rfl
      exact absurd hpolls.2 (by simp [h.2])
    simpa [Campaign.Stuck, hn] using h
  | @pollRaised m job hm hpolls hraise =>
    have hn : n ≠ m.name := by
      rintro rfl
      exact absurd hpolls.2 (by simp [h.2])
    simpa [Campaign.Stuck, hn] using h
  | attributeError hm hstuck => exact h

theorem jammed_act (h : ms.Jammed s) (hact : ms.Act newJob s t) : ms.Jammed t := by
  obtain ⟨m, hm, hstuck⟩ := h
  exact ⟨m, hm, stuck_act hstuck hact⟩

theorem jammed_acts (h : ms.Jammed s) (hacts : ReflTransGen (ms.Act newJob) s t) :
    ms.Jammed t := by
  induction hacts with
  | refl => exact h
  | tail _ hact ih => exact jammed_act ih hact

/-- **What an action does to the rank**: it falls, or the action left a module without a job, or
nothing changed. -/
theorem act_rank (h : ms.Sound s) (hact : ms.Act newJob s t) :
    ms.rank t < ms.rank s ∨ ms.Jammed t ∨ Same s t := by
  cases hact with
  | assigned hmodules hlog herror =>
    rcases herror with heq | ⟨hset, -⟩
    · exact .inr (.inr ⟨hmodules, heq⟩)
    · cases hs : s.upgradeError with
      | false => exact .inl (rank_lt_of_error hmodules hs hset)
      | true => exact .inr (.inr ⟨hmodules, hset.trans hs.symm⟩)
  | @begun m job hready hjob =>
    refine .inl (rank_lt_of_module (List.mem_map_of_mem hready.mem)
      (fun k hk => by simp [hk]) (fun h => h) ?_)
    rw [hready.waiting.rank]
    exact ModuleState.rank_lt_top (by simp)
  | @creationRaised m hready hjob =>
    refine .inl (rank_lt_of_module (List.mem_map_of_mem hready.mem)
      (fun k hk => by simp [hk]) (fun _ => rfl) ?_)
    rw [hready.waiting.rank]
    exact ModuleState.rank_lt_top (by simp)
  | recursionRaised d hm hwait hgoing => exact .inl (rank_lt_of_error rfl hgoing rfl)
  | stillRunning hm hpolls hrun =>
    exact .inl (rank_lt_of_poll h hm hpolls (by simp [hrun]) rfl fun h => h)
  | finished hm hpolls hstopped =>
    exact .inl (rank_lt_of_finish h hm hpolls rfl fun h => by simp [h])
  | pollRaised hm hpolls hraise =>
    exact .inl (rank_lt_of_poll h hm hpolls (by simp [hraise]) rfl fun _ => rfl)
  | @attributeError m hm hstuck => exact .inr (.inl ⟨m, hm, hstuck⟩)

/-! ### Actions and progress -/

theorem sound_act (hnew : NewJobsStop newJob) (h : ms.Sound s) (hact : ms.Act newJob s t) :
    ms.Sound t := by
  refine ⟨act_orderly h.orderly hact, fun n job hpolls => ?_⟩
  have hstop := h.jobsStop
  cases hact with
  | assigned hmodules hlog herror => exact hstop n job ⟨hmodules ▸ hpolls.1, hmodules ▸ hpolls.2⟩
  | @begun m job' hready hjob =>
    by_cases hn : n = m.name
    · obtain rfl : job' = job := by simpa [Campaign.Polls, hn] using hpolls
      exact hnew _ _ _ _ hjob
    · exact hstop n job (by simpa [Campaign.Polls, hn] using hpolls)
  | @creationRaised m hready hjob =>
    by_cases hn : n = m.name
    · exact absurd hpolls.2 (by simp [hn, (h.wf m.name).fresh hready.waiting])
    · exact hstop n job (by simpa [Campaign.Polls, hn] using hpolls)
  | recursionRaised d hm hwait hgoing => exact hstop n job hpolls
  | @stillRunning m job' hm hpolls' hrun =>
    by_cases hn : n = m.name
    · obtain ⟨-, rfl⟩ : _ ∧ job'.next = job := by simpa [Campaign.Polls, hn] using hpolls
      exact (hstop _ _ hpolls').next (by simp [hrun])
    · exact hstop n job (by simpa [Campaign.Polls, hn] using hpolls)
  | @finished m job' hm hpolls' hstopped =>
    by_cases hn : n = m.name
    · exact absurd hpolls.1 (by simp [hn])
    · exact hstop n job (by simpa [Campaign.Polls, hn] using hpolls)
  | @pollRaised m job' hm hpolls' hraise =>
    by_cases hn : n = m.name
    · obtain ⟨-, rfl⟩ : _ ∧ job'.next = job := by simpa [Campaign.Polls, hn] using hpolls
      exact (hstop _ _ hpolls').next (by simp [hraise])
    · exact hstop n job (by simpa [Campaign.Polls, hn] using hpolls)
  | attributeError hm hstuck => exact hstop n job hpolls

theorem sound_initial : ms.Sound Campaign.initial :=
  ⟨orderly_initial, fun _ _ hpolls => Bool.noConfusion hpolls.1⟩

theorem Reached.sound {limit : ℕ} (hnew : NewJobsStop newJob) (h : ms.Reached newJob limit s) :
    ms.Sound s :=
  h.invariant sound_initial fun _ _ hs hact => sound_act hnew hs hact

variable (ms) in
/-- Some progress was made since `u`, or the upgrade is jammed. -/
def Progressed (u s : Campaign ν) : Prop := ms.rank s < ms.rank u ∨ ms.Jammed s

theorem acts_sound (hnew : NewJobsStop newJob) (h : ms.Sound s)
    (hacts : ReflTransGen (ms.Act newJob) s t) : ms.Sound t := by
  induction hacts with
  | refl => exact h
  | tail _ hact ih => exact sound_act hnew ih hact

/-- Progress is kept. -/
theorem acts_progressed (hnew : NewJobsStop newJob) (hs : ms.Sound s) (h : ms.Progressed u s)
    (hacts : ReflTransGen (ms.Act newJob) s t) : ms.Progressed u t := by
  induction hacts with
  | refl => exact h
  | tail hacts hact ih =>
    rcases ih with hlt | hjam
    · rcases act_rank (acts_sound hnew hs hacts) hact with hlt' | hjam | hsame
      · exact .inl (hlt'.trans hlt)
      · exact .inr hjam
      · exact .inl (hsame.rank_eq ▸ hlt)
    · exact .inr (jammed_act hjam hact)

/-- Without progress nothing changes. -/
theorem acts_same (hnew : NewJobsStop newJob) (hs : ms.Sound s) (h : Same u s)
    (hacts : ReflTransGen (ms.Act newJob) s t) : ms.Progressed u t ∨ Same u t := by
  induction hacts with
  | refl => exact .inr h
  | tail hacts hact ih =>
    rcases ih with hprog | hsame
    · exact .inl (acts_progressed hnew (acts_sound hnew hs hacts) hprog (.single hact))
    · rcases act_rank (acts_sound hnew hs hacts) hact with hlt | hjam | hsame'
      · exact .inl (.inl (hsame.rank_eq ▸ hlt))
      · exact .inl (.inr hjam)
      · exact .inr ⟨hsame'.1.trans hsame.1, hsame'.2.trans hsame.2⟩

/-! ### Ready modules are begun -/

omit [DecidableEq ν] in
/-- The loop over dependencies that are done does nothing. -/
theorem visitDependens_of_done {visit : Module ν π → Prog (Campaign ν) CampaignExc Unit}
    {dependens : List (Module ν π)} (b : Bool)
    (h : ∀ d ∈ dependens, (s.modules d.name).upgradeDone = true) :
    visitDependens visit dependens b s = some (.ok b, s) := by
  induction dependens with
  | nil => rfl
  | cons d dependens ih =>
    rw [List.forall_mem_cons] at h
    unfold visitDependens
    rw [bind_of_ok (get_apply s), if_neg (by simp [h.1])]
    exact ih h.2

/-- `upgrade_module` of a module that is ready upgrades it. -/
theorem upgradeModule_of_ready {m : Module ν π} (limit : ℕ) (h : ms.Ready s m) :
    ms.upgradeModule newJob limit m s = m.upgrade newJob s := by
  have hbody : ∀ visit : Module ν π → Prog (Campaign ν) CampaignExc Unit,
      ms.upgradeModuleBody newJob visit m s = m.upgrade newJob s := by
    intro visit
    unfold upgradeModuleBody
    rw [bind_of_ok (get_apply s), if_neg (by simp [h.waiting.1, h.waiting.2])]
    refine bind_of_ok (visitDependens_of_done true fun d hd => h.done _ ?_)
    exact (mem_map_dependenModules h.mem _).1 (List.mem_map_of_mem hd)
  cases limit with
  | zero => exact hbody _
  | succ limit => exact hbody _

/-- A module that is ready does not stay as it is. -/
theorem upgradeModule_ready_changes {m : Module ν π} (limit : ℕ) (h : ms.Ready s m)
    (hrun : ms.upgradeModule newJob limit m s = some (.ok (), t)) : ¬ Same s t := by
  rw [upgradeModule_of_ready limit h] at hrun
  have hcases : Triple (· = s) (m.upgrade newJob)
      (fun _ t => (t.modules m.name).inUpgrading = true) (fun _ _ => True) := by
    refine Module.upgrade_triple ?_ (fun _ _ _ _ => trivial) ?_
    · rintro s rfl hskip
      exact absurd h.waiting hskip
    · rintro s job rfl _ _
      simp
  have hup := hcases.ok rfl hrun
  rintro ⟨hmodules, -⟩
  rw [hmodules, h.waiting.2] at hup
  exact Bool.noConfusion hup

/-! ### Jobs that run are asked -/

/-- Asking a job lowers the rank. -/
theorem checkUpgradeDone_progress {m : Module ν π} (hs : ms.Sound s) (hm : m ∈ ms.modules) :
    Triple (· = s) m.checkUpgradeDone
      (fun _ t => ms.rank t < ms.rank s ∨ t = s ∧ (s.modules m.name).inUpgrading = false)
      (fun _ t => ms.Progressed s t.handled) := by
  refine Module.checkUpgradeDone_triple ?_ ?_ ?_ ?_ ?_
  · rintro s rfl hidle
    exact .inr ⟨rfl, hidle⟩
  · rintro s rfl hstuck
    exact .inr ⟨m, hm, hstuck⟩
  · rintro s job rfl hpolls hrun
    exact .inl (rank_lt_of_poll hs hm hpolls (by simp [hrun]) rfl fun h => h)
  · rintro s job rfl hpolls hstopped
    exact .inl (rank_lt_of_finish hs hm hpolls rfl fun h => h)
  · rintro s job rfl hpolls hraise
    exact .inl (rank_lt_of_poll hs hm hpolls (by simp [hraise]) rfl fun _ => rfl)

omit [DecidableEq ν] in
/-- Assignments that set at most `upgrade_error` do not raise the rank. -/
theorem rank_le_of_assign (hmodules : t.modules = s.modules)
    (herror : s.upgradeError = true → t.upgradeError = true) : ms.rank t ≤ ms.rank s := by
  intro i
  cases i with
  | none =>
    cases hs : s.upgradeError with
    | false => cases ht : t.upgradeError <;> simp [rank, hs, ht]
    | true => simp [rank, hs, herror hs]
  | some n => simp [rank, hmodules]

/-- A turn of the loop after the upgrades were begun. -/
theorem checkAll_progress {m : Module ν π} (hs : ms.Sound s) (hm : m ∈ ms.modules) :
    Triple (· = s) (checkAll m)
      (fun _ t => ms.rank t < ms.rank s ∨ (s.modules m.name).inUpgrading = false ∧
        t.allDone = (s.allDone && (s.modules m.name).upgradeDone))
      (fun _ t => ms.Progressed s t.handled) := by
  unfold checkAll
  refine (checkUpgradeDone_progress hs hm).bind fun _ => ?_
  refine Triple.bind (Q := fun _ t => ms.rank t < ms.rank s ∨
    (s.modules m.name).inUpgrading = false ∧
      t.allDone = (s.allDone && (s.modules m.name).upgradeDone))
    (.modify _ fun t ht => ?_) fun _ => .modify _ fun t ht => ?_
  · rcases ht with hlt | ⟨rfl, hidle⟩
    · left
      split
      · exact lt_of_le_of_lt (rank_le_of_assign rfl fun h => h) hlt
      · exact hlt
    · refine .inr ⟨hidle, ?_⟩
      split
      · next hdone => simp [by simpa using hdone]
      · next hdone => simp [by simpa using hdone]
  · rcases ht with hlt | ⟨hidle, hall⟩
    · left
      split
      · have hle : ms.rank { t with upgradeError := true } ≤ ms.rank t :=
          rank_le_of_assign rfl fun _ => rfl
        exact hle.trans_lt hlt
      · exact hlt
    · refine .inr ⟨hidle, ?_⟩
      split
      · exact hall
      · exact hall

/-- A turn of the loop after an error. -/
theorem awaitAll_progress {m : Module ν π} (hs : ms.Sound s) (hm : m ∈ ms.modules) :
    Triple (· = s) (awaitAll m)
      (fun _ t => ms.rank t < ms.rank s ∨ (s.modules m.name).inUpgrading = false ∧
        t.allDone = s.allDone)
      (fun _ t => ms.Progressed s t.handled) := by
  unfold awaitAll
  refine (checkUpgradeDone_progress hs hm).bind fun _ => .modify _ fun t ht => ?_
  rcases ht with hlt | ⟨rfl, hidle⟩
  · left
    split
    · exact lt_of_le_of_lt (rank_le_of_assign rfl fun h => h) hlt
    · exact hlt
  · refine .inr ⟨hidle, ?_⟩
    rw [if_neg (by simp [hidle])]

/-! ### A round makes progress or is the last -/

variable (ms newJob u) in
/-- The part of a round that leads from `u` to `s` made progress, or nothing changed and `X`. -/
structure Watching (X : Prop) (s : Campaign ν) : Prop where
  sound : ms.Sound s
  exit : s.exitUpgrade = false
  progress : ms.Progressed u s ∨ Same u s ∧ X

omit [DecidableEq ν] in
theorem Ready.of_same {m : Module ν π} (h : ms.Ready u m) (hsame : Same u s) : ms.Ready s m :=
  ⟨h.mem, hsame.2.trans h.going, hsame.1 ▸ h.waiting, hsame.1 ▸ h.done⟩

/-- `upgrade_module` makes progress if the module is ready. -/
theorem upgradeModule_watching {m : Module ν π} (hnew : NewJobsStop newJob) (limit : ℕ)
    (hm : m ∈ ms.modules) (hu : u.upgradeError = false) (done : List (Module ν π)) :
    Triple (fun s => ms.Watching u (∀ m' ∈ done, ¬ ms.Ready u m') s ∧
        s.upgradeError = false ∧ s.allDone = true)
      (ms.upgradeModule newJob limit m)
      (fun _ s => ms.Watching u (∀ m' ∈ done ++ [m], ¬ ms.Ready u m') s ∧
        s.upgradeError = false ∧ s.allDone = true)
      (fun _ s => ms.Progressed u s.handled) := by
  rintro s ⟨hs, hgoing, hall⟩ r t hrun
  have hout := upgradeModule_beginning limit hm s
    ⟨⟨.refl, hs.exit⟩, hgoing, hall, fun _ => rfl, fun _ _ _ _ => rfl⟩ r t hrun
  cases r with
  | error e =>
    have hacts : ReflTransGen (ms.Act newJob) s t.handled := hout.1
    rcases hs.progress with hprog | ⟨hsame, -⟩
    · exact acts_progressed hnew hs.sound hprog hacts
    · refine (acts_same hnew hs.sound hsame hacts).resolve_right fun hsame' => ?_
      exact Bool.noConfusion (hsame'.2.trans hu)
  | ok _ =>
    have hbegin : ms.Beginning newJob s t := hout
    have hacts := hbegin.turning.1
    refine ⟨⟨acts_sound hnew hs.sound hacts, hbegin.turning.2, ?_⟩, hbegin.going,
      hbegin.allDone⟩
    rcases hs.progress with hprog | ⟨hsame, hdone⟩
    · exact .inl (acts_progressed hnew hs.sound hprog hacts)
    · refine (acts_same hnew hs.sound hsame hacts).imp_right fun hsame' => ⟨hsame', ?_⟩
      rw [List.forall_mem_append, List.forall_mem_singleton]
      refine ⟨hdone, fun hready => ?_⟩
      exact upgradeModule_ready_changes limit (hready.of_same hsame) hrun
        ⟨hsame'.1.trans hsame.1.symm, hsame'.2.trans hsame.2.symm⟩

/-- A turn of the loop after the upgrades were begun makes progress if the module is in
upgrading. -/
theorem checkAll_watching {m : Module ν π} (hnew : NewJobsStop newJob) (hm : m ∈ ms.modules)
    (X : Prop) (done : List (Module ν π)) :
    Triple
      (fun s => ms.Watching u (X ∧ (∀ m' ∈ done, (u.modules m'.name).inUpgrading = false) ∧
        (s.allDone = true ∨ ∃ m' ∈ done, (u.modules m'.name).upgradeDone = false)) s)
      (checkAll m)
      (fun _ s => ms.Watching u (X ∧
        (∀ m' ∈ done ++ [m], (u.modules m'.name).inUpgrading = false) ∧
        (s.allDone = true ∨ ∃ m' ∈ done ++ [m], (u.modules m'.name).upgradeDone = false)) s)
      (fun _ s => ms.Progressed u s.handled) := by
  rintro s hs r t hrun
  have hstart : ms.Checking newJob s [] s := ⟨⟨.refl, hs.exit⟩, by simp, by simp⟩
  have hout := checkAll_checking hm [] s hstart r t hrun
  have hprogress := checkAll_progress hs.sound hm s rfl r t hrun
  cases r with
  | error e =>
    have hacts : ReflTransGen (ms.Act newJob) s t.handled := hout.1
    rcases hs.progress with hprog | ⟨hsame, -⟩
    · exact acts_progressed hnew hs.sound hprog hacts
    · exact hprogress.imp_left fun hlt => hsame.rank_eq ▸ hlt
  | ok _ =>
    have hcheck : ms.Checking newJob s [m] t := hout
    have hacts := hcheck.turning.1
    refine ⟨acts_sound hnew hs.sound hacts, hcheck.turning.2, ?_⟩
    rcases hs.progress with hprog | ⟨hsame, hX, hidle, hall⟩
    · exact .inl (acts_progressed hnew hs.sound hprog hacts)
    · rcases hprogress with hlt | ⟨hidle', hall'⟩
      · exact .inl (.inl (hsame.rank_eq ▸ hlt))
      · refine (acts_same hnew hs.sound hsame hacts).imp_right fun hsame' => ⟨hsame', hX, ?_, ?_⟩
        · rw [List.forall_mem_append, List.forall_mem_singleton]
          exact ⟨hidle, hsame.1 ▸ hidle'⟩
        · rw [hall', hsame.1]
          cases hdone : (u.modules m.name).upgradeDone with
          | false => exact .inr ⟨m, by simp, hdone⟩
          | true =>
            rw [Bool.and_true]
            exact hall.imp_right fun ⟨m', hm', h⟩ => ⟨m', List.mem_append_left _ hm', h⟩

/-- A turn of the loop after an error makes progress if the module is in upgrading. -/
theorem awaitAll_watching {m : Module ν π} (hnew : NewJobsStop newJob) (hm : m ∈ ms.modules)
    (done : List (Module ν π)) :
    Triple
      (fun s => ms.Watching u
        ((∀ m' ∈ done, (u.modules m'.name).inUpgrading = false) ∧ s.allDone = true) s ∧
        s.upgradeError = true)
      (awaitAll m)
      (fun _ s => ms.Watching u
        ((∀ m' ∈ done ++ [m], (u.modules m'.name).inUpgrading = false) ∧ s.allDone = true) s ∧
        s.upgradeError = true)
      (fun _ s => ms.Progressed u s.handled) := by
  rintro s ⟨hs, herror⟩ r t hrun
  have hstart : ms.Awaiting newJob s [] s := ⟨⟨.refl, hs.exit⟩, herror, by simp⟩
  have hout := awaitAll_awaiting hm [] s hstart r t hrun
  have hprogress := awaitAll_progress hs.sound hm s rfl r t hrun
  cases r with
  | error e =>
    have hacts : ReflTransGen (ms.Act newJob) s t.handled := hout.1
    rcases hs.progress with hprog | ⟨hsame, -⟩
    · exact acts_progressed hnew hs.sound hprog hacts
    · exact hprogress.imp_left fun hlt => hsame.rank_eq ▸ hlt
  | ok _ =>
    have hawait : ms.Awaiting newJob s [m] t := hout
    have hacts := hawait.turning.1
    refine ⟨⟨acts_sound hnew hs.sound hacts, hawait.turning.2, ?_⟩, hawait.error⟩
    rcases hs.progress with hprog | ⟨hsame, hidle, hall⟩
    · exact .inl (acts_progressed hnew hs.sound hprog hacts)
    · rcases hprogress with hlt | ⟨hidle', hall'⟩
      · exact .inl (.inl (hsame.rank_eq ▸ hlt))
      · refine (acts_same hnew hs.sound hsame hacts).imp_right fun hsame' =>
          ⟨hsame', ?_, hall'.trans hall⟩
        rw [List.forall_mem_append, List.forall_mem_singleton]
        exact ⟨hidle, hsame.1 ▸ hidle'⟩

omit [DecidableEq ν] in
/-- Without a cycle, a module that is not done waits for one in upgrading, or some module is
ready. -/
theorem exists_ready (hacyclic : ∀ n, ¬ TransGen ms.DependsOn n n) (hgoing : u.upgradeError = false)
    (hidle : ∀ m ∈ ms.modules, (u.modules m.name).inUpgrading = false)
    (hundone : ∃ m ∈ ms.modules, (u.modules m.name).upgradeDone = false) :
    ∃ m ∈ ms.modules, ms.Ready u m := by
  obtain ⟨m₀, hm₀, hm₀'⟩ := hundone
  obtain ⟨n, hn, hundone, hfirst⟩ := exists_first hacyclic
    (fun n => (u.modules n).upgradeDone = false) (ms.modules.map Module.name)
    ⟨m₀.name, List.mem_map_of_mem hm₀, hm₀'⟩
  obtain ⟨m, hm, rfl⟩ := List.mem_map.1 hn
  refine ⟨m, hm, hm, hgoing, ⟨hundone, hidle m hm⟩, fun d hd => ?_⟩
  have hdep : d ∈ ms.modules.map Module.name := by
    obtain ⟨m', hm', -, hmem, -⟩ := hd
    exact ms.closed m' hm' d hmem
  simpa using hfirst d hdep hd

/-- The end of the `try` block keeps progress, and without progress it sets `exit_upgrade`. -/
theorem exit_progress (hnew : NewJobsStop newJob) (hsound : ms.Sound t)
    (h : ms.Progressed u t ∨ t.allDone = true) :
    ms.Progressed u (if t.allDone then { t with exitUpgrade := true } else t) ∨
      (if t.allDone then { t with exitUpgrade := true } else t).exitUpgrade = true := by
  rcases h with hprog | hall
  · left
    split
    · exact acts_progressed hnew hsound hprog (.single (.assigned rfl rfl (.inl rfl)))
    · exact hprog
  · exact .inr (by simp [hall])

/-- The `try` block makes progress or sets `exit_upgrade`. -/
theorem tryBlock_progress (hnew : NewJobsStop newJob) (limit : ℕ)
    (hacyclic : ∀ n, ¬ TransGen ms.DependsOn n n) (hu : ms.Sound u)
    (hexit : u.exitUpgrade = false) :
    Triple (· = u) (ms.tryBlock newJob limit)
      (fun _ t => ms.Progressed u t ∨ t.exitUpgrade = true)
      (fun _ t => ms.Progressed u t.handled) := by
  unfold tryBlock
  refine Triple.bind (Q := fun _ s => ms.Watching u True s ∧ s.allDone = true ∧
    s.upgradeError = u.upgradeError) (.modify _ ?_) fun _ => .read ?_
  · rintro s rfl
    refine ⟨⟨sound_act hnew hu (.assigned rfl rfl (.inl rfl)), hexit, .inr ⟨⟨rfl, rfl⟩, trivial⟩⟩,
      rfl, rfl⟩
  · rintro s ⟨hs, hall, herror⟩
    dsimp only
    split
    · next hgoing =>
      have hgoing : s.upgradeError = false := by simpa using hgoing
      have hu' : u.upgradeError = false := herror.symm.trans hgoing
      let I (done : List (Module ν π)) (s : Campaign ν) : Prop :=
        ms.Watching u (∀ m' ∈ done, ¬ ms.Ready u m') s ∧
          s.upgradeError = false ∧ s.allDone = true
      let K (done : List (Module ν π)) (s : Campaign ν) : Prop :=
        ms.Watching u ((∀ m' ∈ ms.modules, ¬ ms.Ready u m') ∧
          (∀ m' ∈ done, (u.modules m'.name).inUpgrading = false) ∧
          (s.allDone = true ∨ ∃ m' ∈ done, (u.modules m'.name).upgradeDone = false)) s
      have hbegin : Triple (I []) (forM ms.modules (ms.upgradeModule newJob limit))
          (fun _ => I ms.modules) (fun _ t => ms.Progressed u t.handled) :=
        Triple.forM ms.modules fun done m rest hl =>
          upgradeModule_watching hnew limit (by simp [hl]) hu' done
      have hcheck : Triple (K []) (forM ms.modules checkAll) (fun _ => K ms.modules)
          (fun _ t => ms.Progressed u t.handled) :=
        Triple.forM ms.modules fun done m rest hl => checkAll_watching hnew (by simp [hl]) _ done
      have hstart : I [] s :=
        ⟨⟨hs.sound, hs.exit, hs.progress.imp_right fun h => ⟨h.1, by simp⟩⟩, hgoing, hall⟩
      refine (hbegin.at hstart).bind fun _ => ?_
      refine Triple.bind (hcheck.mono (fun t ht => ⟨ht.1.sound, ht.1.exit,
        ht.1.progress.imp_right fun h => ⟨h.1, h.2, by simp, .inl ht.2.2⟩⟩) (fun _ _ h => h)
        (fun _ _ h => h)) fun _ => .modify _ fun t ht => exit_progress hnew ht.sound ?_
      rcases ht.progress with hprog | ⟨hsame, hunready, hidle, hall | hundone⟩
      · exact .inl hprog
      · exact .inr hall
      · obtain ⟨m, hm, hready⟩ := exists_ready hacyclic hu' hidle hundone
        exact absurd hready (hunready m hm)
    · next hbroken =>
      have hbroken : s.upgradeError = true := by simpa using hbroken
      let I (done : List (Module ν π)) (s : Campaign ν) : Prop :=
        ms.Watching u ((∀ m' ∈ done, (u.modules m'.name).inUpgrading = false) ∧
          s.allDone = true) s ∧ s.upgradeError = true
      have hawait : Triple (I []) (forM ms.modules awaitAll) (fun _ => I ms.modules)
          (fun _ t => ms.Progressed u t.handled) :=
        Triple.forM ms.modules fun done m rest hl => awaitAll_watching hnew (by simp [hl]) done
      have hstart : I [] s :=
        ⟨⟨hs.sound, hs.exit, hs.progress.imp_right fun h => ⟨h.1, by simp, hall⟩⟩, hbroken⟩
      refine (hawait.at hstart).bind fun _ => .modify _ fun t ht => exit_progress hnew ht.1.sound ?_
      rcases ht.1.progress with hprog | ⟨hsame, hidle, hall⟩
      · exact .inl hprog
      · exact .inr hall

/-- **A round of an acyclic configuration makes progress, is the last one, or ends jammed.** -/
theorem round_progress (hnew : NewJobsStop newJob) (limit : ℕ)
    (hacyclic : ∀ n, ¬ TransGen ms.DependsOn n n) (hu : ms.Sound u)
    (hexit : u.exitUpgrade = false) (h : ms.round newJob limit u = some (.ok (), t)) :
    ms.Progressed u t ∨ t.exitUpgrade = true := by
  have hround : Triple (· = u) (ms.round newJob limit)
      (fun _ t => ms.Progressed u t ∨ t.exitUpgrade = true) (fun _ _ => False) :=
    (tryBlock_progress hnew limit hacyclic hu hexit).tryCatch fun _ =>
      .modify _ fun s hs => .inl hs
  exact hround.ok rfl h

end Modules

end EcuUpgrade
