import EcuUpgrade.Campaign.Progress

/-!
# The outcome of an upgrade

`Modules.upgrade` should return when every entry of the configuration had a job that ran and
reported success, and raise otherwise, after the jobs have stopped. It does, except in three
cases. If the constructor of a job raises, the upgrade never ends. If an entry was replaced by a
later one of the same name, no job runs for it, and the upgrade may return all the same. If a call
of `is_running` raises, the upgrade fails, also when the job then stops with success.

## Main definitions

* `UpgradeJob.init`, `newUpgradeJob`: the jobs `Module.upgrade` creates.
* `Modules.UpgradeOutcome`: the outcome an upgrade should have.
* `Modules.Regular`: none of the three cases occurs in a way that shows.

## Main results

* `Modules.jammed_forever`, `Modules.whileLoop_ends`: when the loop ends.
* `Modules.upgradeOutcome_iff`: **an upgrade of an acyclic configuration has the outcome it should
  have if and only if it is regular.**
* `upgrade_never_ends`: with the constructor of `UpgradeJob` it has not.
-/

namespace EcuUpgrade

open Programs Programs.Prog Runs Relation Schedules

variable {ν π : Type} [DecidableEq ν]

namespace Modules

variable {ms : Modules ν π} {newJob : NewJob ν π} {limit : ℕ} {s t u : Campaign ν}

/-! ### The end of the loop -/

/-- What a round that set `exit_upgrade` has seen. -/
theorem Reached.settled (h : ms.Reached newJob limit s) (hexit : s.exitUpgrade = true) :
    ms.Settled s := by
  obtain ⟨tr, hrun⟩ := h
  cases hrun with
  | start h =>
    subst h
    exact Bool.noConfusion hexit
  | snoc _ hs => exact ((round_triple limit hs.1).ok rfl hs.2).2 hexit

/-- No module is in upgrading when `exit_upgrade` is set. -/
theorem Reached.idle (h : ms.Reached newJob limit s) (hexit : s.exitUpgrade = true)
    {m : Module ν π} (hm : m ∈ ms.modules) : (s.modules m.name).inUpgrading = false := by
  obtain ⟨a, ha, -⟩ := h.orderly
  rcases h.settled hexit with hdone | ⟨-, hidle⟩
  · by_contra hup
    rw [Bool.not_eq_false] at hup
    exact absurd (hdone m hm).1 (by simp [(ha.wf m.name).notDone hup])
  · exact hidle m hm

theorem Reached.not_jammed (h : ms.Reached newJob limit s) (hexit : s.exitUpgrade = true) :
    ¬ ms.Jammed s := by
  rintro ⟨m, hm, hup, -⟩
  exact absurd hup (by simp [h.idle hexit hm])

/-- **A jammed upgrade never ends.** -/
theorem jammed_forever (h : ms.Reached newJob limit u) (hjam : ms.Jammed u) (fuel : ℕ) :
    ms.whileLoop newJob limit fuel u = none := by
  induction fuel generalizing u with
  | zero => rfl
  | succ fuel ih =>
    have hexit : u.exitUpgrade = false := by
      by_contra hexit
      exact h.not_jammed (by simpa using hexit) hjam
    obtain ⟨v, hv⟩ := exists_step ms newJob limit hexit
    rw [whileLoop_of_step fuel hv]
    have hacts := ((round_triple limit hv.1).ok rfl hv.2).1
    exact ih (h.path (.cons hv (.nil v))) (jammed_acts hjam hacts)

/-- **An upgrade that never jams ends**, if no module depends on itself and the jobs stop. -/
theorem whileLoop_ends (hnew : NewJobsStop newJob) (hacyclic : ∀ n, ¬ TransGen ms.DependsOn n n)
    (hfree : ∀ s, ms.Reached newJob limit s → ¬ ms.Jammed s) (hu : ms.Reached newJob limit u) :
    ∃ fuel t, ms.whileLoop newJob limit fuel u = some (.ok (), t) := by
  have : Finite {n // n ∈ ms.modules.map Module.name} :=
    (List.finite_toSet (ms.modules.map Module.name)).to_subtype
  induction hrank : ms.rank u using WellFoundedLT.induction generalizing u with
  | ind rank ih =>
    subst hrank
    cases hexit : u.exitUpgrade with
    | true => exact ⟨1, u, whileLoop_of_exit 0 hexit⟩
    | false =>
      obtain ⟨v, hv⟩ := exists_step ms newJob limit hexit
      have hv' : ms.Reached newJob limit v := hu.path (.cons hv (.nil v))
      rcases round_progress hnew limit hacyclic (hu.sound hnew) hexit hv.2 with
        (hlt | hjam) | hexit'
      · obtain ⟨fuel, t, ht⟩ := ih _ hlt hv' rfl
        exact ⟨fuel + 1, t, by rw [whileLoop_of_step fuel hv, ht]⟩
      · exact absurd hjam (hfree v hv')
      · exact ⟨2, v, by rw [whileLoop_of_step 1 hv, whileLoop_of_exit 0 hexit']⟩

/-! ### The record -/

/-- The record only grows. -/
theorem act_log (hact : ms.Act newJob s t) : ∃ l, t.log = s.log ++ l := by
  cases hact with
  | assigned hmodules hlog herror => exact ⟨[], by simp [hlog]⟩
  | begun hready hjob => exact ⟨_, rfl⟩
  | creationRaised hready hjob => exact ⟨_, by simp; rfl⟩
  | recursionRaised d hm hwait hgoing => exact ⟨_, by simp; rfl⟩
  | stillRunning hm hpolls hrun => exact ⟨[], by simp⟩
  | finished hm hpolls hstop => exact ⟨_, rfl⟩
  | pollRaised hm hpolls hraise => exact ⟨_, by simp; rfl⟩
  | attributeError hm hstuck => exact ⟨_, rfl⟩

theorem mem_log_of_acts (hacts : ReflTransGen (ms.Act newJob) s t) {e : CampaignEvent ν}
    (he : e ∈ s.log) : e ∈ t.log := by
  induction hacts with
  | refl => exact he
  | tail _ hact ih =>
    obtain ⟨l, hl⟩ := act_log hact
    exact hl ▸ List.mem_append_left l ih

theorem mem_log_of_path {tr : List Unit} (hpath : Path (ms.CampaignStep newJob limit) s tr t)
    {e : CampaignEvent ν} (he : e ∈ s.log) : e ∈ t.log := by
  induction hpath with
  | nil s => exact he
  | cons hs _ ih => exact ih (mem_log_of_acts ((round_triple limit hs.1).ok rfl hs.2).1 he)

variable (ms) in
/-- Why `upgrade_error` is set. -/
def Cause (s : Campaign ν) : Prop :=
  (∃ m ∈ ms.modules, .finished m.name false ∈ s.log) ∨ (∃ n, .pollRaised n ∈ s.log) ∨
    ((∃ n, .recursionRaised n ∈ s.log) ∧ ∃ m ∈ ms.modules, (s.modules m.name).Waiting) ∨
    ms.Jammed s

variable (ms) in
/-- What the record explains. -/
structure Explained (s : Campaign ν) : Prop where
  jammed : ∀ n, .creationRaised n ∈ s.log → ms.Jammed s
  stuck : ∀ n, s.Stuck n → .creationRaised n ∈ s.log
  error : s.upgradeError = true → ms.Cause s

/-- After an error no module is begun. -/
theorem waiting_act (herror : s.upgradeError = true) {n : ν} (h : (s.modules n).Waiting)
    (hact : ms.Act newJob s t) : (t.modules n).Waiting := by
  have hasked : ∀ {m : Module ν π} {job : Job}, s.Polls m.name job → n ≠ m.name := by
    rintro m job hpolls rfl
    exact absurd hpolls.1 (by simp [h.2])
  cases hact with
  | assigned hmodules hlog hassign => exact hmodules ▸ h
  | begun hready hjob => exact absurd herror (by simp [hready.going])
  | creationRaised hready hjob => exact absurd herror (by simp [hready.going])
  | recursionRaised d hm hwait hgoing => exact h
  | stillRunning hm hpolls hrun => simpa [hasked hpolls] using h
  | finished hm hpolls hstop => simpa [hasked hpolls] using h
  | pollRaised hm hpolls hraise => simpa [hasked hpolls] using h
  | attributeError hm hstuck => exact h

/-- A cause remains one. -/
theorem cause_act (herror : s.upgradeError = true) (h : ms.Cause s) (hact : ms.Act newJob s t) :
    ms.Cause t := by
  obtain ⟨l, hl⟩ := act_log hact
  rcases h with ⟨m, hm, hfin⟩ | ⟨n, hn⟩ | ⟨⟨n, hn⟩, m, hm, hwait⟩ | hjam
  · exact .inl ⟨m, hm, hl ▸ List.mem_append_left l hfin⟩
  · exact .inr (.inl ⟨n, hl ▸ List.mem_append_left l hn⟩)
  · exact .inr (.inr (.inl ⟨⟨n, hl ▸ List.mem_append_left l hn⟩, m, hm,
      waiting_act herror hwait hact⟩))
  · exact .inr (.inr (.inr (jammed_act hjam hact)))

/-- An error has a cause. -/
theorem error_act (horderly : ms.Orderly s) (hcause : s.upgradeError = true → ms.Cause s)
    (hact : ms.Act newJob s t) (herror : t.upgradeError = true) : ms.Cause t := by
  cases hs : s.upgradeError with
  | true => exact cause_act hs (hcause hs) hact
  | false =>
    obtain ⟨a, ha, -⟩ := horderly
    cases hact with
    | assigned hmodules hlog hassign =>
      rcases hassign with heq | ⟨-, m, hm, hfail⟩
      · exact absurd herror (by simp [heq, hs])
      · have hdone : (s.modules m.name).upgradeDone = true := by
          by_contra hdone
          exact absurd ((ha.wf m.name).success (by simpa using hdone)) (by simp [hfail])
        have hend : a.status m.name = .ended false := by
          rw [ha.status, ModuleState.status_of_upgradeDone hdone, hfail]
        refine .inl ⟨m, hm, hlog ▸ ?_⟩
        exact finished_mem_map_label.1 ((finished_mem_iff ha.scheduled _ _).2 hend)
    | begun hready hjob => exact absurd herror (by simp [hs])
    | @creationRaised m hready hjob =>
      refine .inr (.inr (.inr ⟨m, hready.mem, by simp, ?_⟩))
      simpa using (ha.wf m.name).fresh hready.waiting
    | @recursionRaised m d hm hwait hgoing =>
      exact .inr (.inr (.inl ⟨⟨d, by simp⟩, m, hm, hwait⟩))
    | stillRunning hm hpolls hrun => exact absurd herror (by simp [hs])
    | @finished m job hm hpolls hstop =>
      have hfail : job.isSuccess = false := by simpa [hs] using herror
      exact .inl ⟨m, hm, by simp [hfail]⟩
    | @pollRaised m job hm hpolls hraise => exact .inr (.inl ⟨m.name, by simp⟩)
    | @attributeError m hm hstuck => exact .inr (.inr (.inr ⟨m, hm, hstuck⟩))

/-- A module gets stuck when its job could not be created, and only then. -/
theorem creationRaised_act (horderly : ms.Orderly s) (hact : ms.Act newJob s t) {n : ν}
    (hn : .creationRaised n ∈ t.log) : .creationRaised n ∈ s.log ∨ ms.Jammed t := by
  obtain ⟨a, ha, -⟩ := horderly
  cases hact with
  | assigned hmodules hlog hassign => exact .inl (hlog ▸ hn)
  | begun hready hjob => exact .inl (by simpa using hn)
  | @creationRaised m hready hjob =>
    refine .inr ⟨m, hready.mem, by simp, ?_⟩
    simpa using (ha.wf m.name).fresh hready.waiting
  | recursionRaised d hm hwait hgoing => exact .inl (by simpa using hn)
  | stillRunning hm hpolls hrun => exact .inl hn
  | finished hm hpolls hstop => exact .inl (by simpa using hn)
  | pollRaised hm hpolls hraise => exact .inl (by simpa using hn)
  | attributeError hm hstuck => exact .inl (by simpa using hn)

theorem stuck_of_act (hact : ms.Act newJob s t) {n : ν} (hn : t.Stuck n) :
    s.Stuck n ∨ .creationRaised n ∈ t.log := by
  cases hact with
  | assigned hmodules hlog hassign => exact .inl ⟨hmodules ▸ hn.1, hmodules ▸ hn.2⟩
  | @begun m job hready hjob =>
    by_cases hm : n = m.name
    · exact absurd hn.2 (by simp [hm])
    · exact .inl (by simpa [Campaign.Stuck, hm] using hn)
  | @creationRaised m hready hjob =>
    by_cases hm : n = m.name
    · exact .inr (by simp [hm])
    · exact .inl (by simpa [Campaign.Stuck, hm] using hn)
  | recursionRaised d hm hwait hgoing => exact .inl hn
  | @stillRunning m job _ hpolls hrun =>
    by_cases hm : n = m.name
    · exact absurd hn.2 (by simp [hm])
    · exact .inl (by simpa [Campaign.Stuck, hm] using hn)
  | @finished m job _ hpolls hstop =>
    by_cases hm : n = m.name
    · exact absurd hn.1 (by simp [hm])
    · exact .inl (by simpa [Campaign.Stuck, hm] using hn)
  | @pollRaised m job _ hpolls hraise =>
    by_cases hm : n = m.name
    · exact absurd hn.2 (by simp [hm])
    · exact .inl (by simpa [Campaign.Stuck, hm] using hn)
  | attributeError hm hstuck => exact .inl hn

theorem explained_act (horderly : ms.Orderly s) (h : ms.Explained s)
    (hact : ms.Act newJob s t) : ms.Explained t := by
  refine ⟨fun n hn => ?_, fun n hn => ?_, error_act horderly h.error hact⟩
  · rcases creationRaised_act horderly hact hn with hold | hjam
    · exact jammed_act (h.jammed n hold) hact
    · exact hjam
  · rcases stuck_of_act hact hn with hold | hnew
    · obtain ⟨l, hl⟩ := act_log hact
      exact hl ▸ List.mem_append_left l (h.stuck n hold)
    · exact hnew

theorem Reached.explained (h : ms.Reached newJob limit s) : ms.Explained s := by
  refine (h.invariant (I := fun s => ms.Orderly s ∧ ms.Explained s)
    ⟨orderly_initial, ?_⟩ fun s t hs hact =>
      ⟨act_orderly hs.1 hact, explained_act hs.1 hs.2 hact⟩).2
  refine ⟨fun n hn => ?_, fun n hn => ?_, fun h => Bool.noConfusion h⟩
  · cases hn
  · exact Bool.noConfusion hn.1

/-! ### The outcome -/

variable (ms newJob limit)

/-- The event happens in the upgrade. -/
def Occurs (e : CampaignEvent ν) : Prop := ∃ s, ms.Reached newJob limit s ∧ e ∈ s.log

/-- The entry is the one the module of its name was made from, as far as a job is concerned. -/
def Kept (entry : ModuleJson ν π) (m : Module ν π) : Prop :=
  m ∈ ms.modules ∧ m.name = entry.name ∧ m.config = entry.config

/-- The entry had a job that ran and reported success. -/
def Succeeded (log : List (CampaignEvent ν)) (entry : ModuleJson ν π) : Prop :=
  ∃ m, ms.Kept entry m ∧ .finished m.name true ∈ log

/-- The outcome an upgrade should have: it ends, and returns if and only if every entry had a job
that ran and reported success; otherwise it raises `upgrade failed`, after every job stopped. -/
def UpgradeOutcome (config : List (ModuleJson ν π)) : Prop :=
  ∃ fuel r t, ms.upgrade newJob limit fuel Campaign.initial = some (r, t) ∧
    (r = .ok () ↔ ∀ entry ∈ config, ms.Succeeded t.log entry) ∧
    ∀ e, r = .error e → e = .upgradeFailed ∧
      ∀ m ∈ ms.modules, .begun m.name ∈ t.log → ∃ success, .finished m.name success ∈ t.log

/-- No constructor of a job raises; an entry is replaced by a later one only if some job fails,
some call of `is_running` raises or the recursion is too deep; and a call of `is_running` raises
only if some entry has no job that succeeds. -/
structure Regular (config : List (ModuleJson ν π)) : Prop where
  created : ∀ n, ¬ ms.Occurs newJob limit (.creationRaised n)
  entries : (∀ entry ∈ config, ∃ m, ms.Kept entry m) ∨
    ∃ n, ms.Occurs newJob limit (.finished n false) ∨ ms.Occurs newJob limit (.pollRaised n) ∨
      ms.Occurs newJob limit (.recursionRaised n)
  polls : (∀ n, ¬ ms.Occurs newJob limit (.pollRaised n)) ∨
    ∃ entry ∈ config, ∀ m, ms.Kept entry m → ¬ ms.Occurs newJob limit (.finished m.name true)

variable {ms newJob limit}

variable (ms newJob limit) in
/-- The state in which the loop ends. -/
structure Ended (t : Campaign ν) : Prop where
  reached : ms.Reached newJob limit t
  exit : t.exitUpgrade = true
  last : ∀ s, ms.Reached newJob limit s → ∃ tr, Path (ms.CampaignStep newJob limit) s tr t

theorem upgrade_eq_some_iff {fuel : ℕ} {r : Except CampaignExc Unit} :
    ms.upgrade newJob limit fuel u = some (r, t) ↔
      ms.whileLoop newJob limit fuel u = some (.ok (), t) ∧
        r = if t.upgradeError then .error .upgradeFailed else .ok () := by
  unfold upgrade
  constructor
  · intro h
    rw [bind_apply] at h
    split at h
    · cases h
    · next e v hloop => exact absurd (path_of_whileLoop hloop).1 (by simp)
    · next v hloop =>
      rw [bind_of_ok (get_apply v)] at h
      split at h
      · next herror =>
        obtain ⟨rfl, rfl⟩ : .error .upgradeFailed = r ∧ v = t := by simpa using h
        exact ⟨hloop, by rw [if_pos herror]⟩
      · next herror =>
        obtain ⟨rfl, rfl⟩ : .ok () = r ∧ v = t := by simpa using h
        exact ⟨hloop, by rw [if_neg herror]⟩
  · rintro ⟨hloop, rfl⟩
    rw [bind_of_ok hloop, bind_of_ok (get_apply t)]
    split
    · rfl
    · rfl

theorem ended_of_whileLoop {fuel : ℕ} {r : Except CampaignExc Unit}
    (h : ms.whileLoop newJob limit fuel Campaign.initial = some (r, t)) :
    ms.Ended newJob limit t := by
  obtain ⟨-, hexit, tr, htr⟩ := path_of_whileLoop h
  refine ⟨reached_initial.path htr, hexit, fun s hs => ?_⟩
  obtain ⟨tr', hrun⟩ := hs
  obtain ⟨s₀, rfl, hpath⟩ := hrun.exists_path
  obtain ⟨fuel', h'⟩ := whileLoop_of_path hpath h
  exact (path_of_whileLoop h').2.2

namespace Ended

variable (h : ms.Ended newJob limit t)

include h

theorem occurs_iff {e : CampaignEvent ν} : ms.Occurs newJob limit e ↔ e ∈ t.log := by
  constructor
  · rintro ⟨s, hs, he⟩
    obtain ⟨tr, htr⟩ := h.last s hs
    exact mem_log_of_path htr he
  · exact fun he => ⟨t, h.reached, he⟩

theorem not_creationRaised (n : ν) : ¬ ms.Occurs newJob limit (.creationRaised n) := by
  intro hn
  exact h.reached.not_jammed h.exit (h.reached.explained.jammed n (h.occurs_iff.1 hn))

/-- Every module has succeeded if no error was noted. -/
theorem finished (herror : t.upgradeError = false) {m : Module ν π} (hm : m ∈ ms.modules) :
    .finished m.name true ∈ t.log := by
  obtain ⟨a, ha, -⟩ := h.reached.orderly
  rcases h.reached.settled h.exit with hdone | ⟨hset, -⟩
  · obtain ⟨hd, hsuccess⟩ := hdone m hm
    have hend : a.status m.name = .ended true := by
      rw [ha.status, ModuleState.status_of_upgradeDone hd,
        hsuccess.resolve_right (by simp [herror])]
    exact finished_mem_map_label.1 ((finished_mem_iff ha.scheduled _ _).2 hend)
  · exact absurd hset (by simp [herror])

/-- Every job that was begun has stopped. -/
theorem stopped {m : Module ν π} (hm : m ∈ ms.modules) (hbegun : .begun m.name ∈ t.log) :
    ∃ success, .finished m.name success ∈ t.log := by
  obtain ⟨a, ha, -⟩ := h.reached.orderly
  have hstatus := (begun_mem_iff ha.scheduled m.name).1 (begun_mem_map_label.2 hbegun)
  have hidle := h.reached.idle h.exit hm
  cases hdone : (t.modules m.name).upgradeDone with
  | false => exact absurd ((ha.status _).trans (ModuleState.Waiting.status ⟨hdone, hidle⟩)) hstatus
  | true =>
    have hend := (ha.status m.name).trans (ModuleState.status_of_upgradeDone hdone)
    exact ⟨_, finished_mem_map_label.1 ((finished_mem_iff ha.scheduled _ _).2 hend)⟩

/-- A module has one result, and none while it waits. -/
theorem not_finished_true {m : Module ν π} (hm : .finished m.name false ∈ t.log ∨
    (t.modules m.name).Waiting) : .finished m.name true ∉ t.log := by
  obtain ⟨a, ha, -⟩ := h.reached.orderly
  intro htrue
  have hend := (finished_mem_iff ha.scheduled _ _).1 (finished_mem_map_label.2 htrue)
  rcases hm with hfalse | hwait
  · have hend' := (finished_mem_iff ha.scheduled _ _).1 (finished_mem_map_label.2 hfalse)
    exact absurd (hend.symm.trans hend') (by simp)
  · rw [ha.status, hwait.status] at hend
    exact Status.noConfusion hend

/-- An error is noted when something went wrong. -/
theorem upgradeError {n : ν} (hn : .finished n false ∈ t.log ∨ .pollRaised n ∈ t.log ∨
    .recursionRaised n ∈ t.log) : t.upgradeError = true := by
  obtain ⟨a, ha, herror⟩ := h.reached.orderly
  refine herror ((halted_iff ha.scheduled).2 ?_)
  rcases hn with hn | hn | hn
  · exact .inr ⟨n, finished_mem_map_label.2 hn⟩
  · exact .inl (List.mem_map.2 ⟨_, hn, rfl⟩)
  · exact .inl (List.mem_map.2 ⟨_, hn, rfl⟩)

/-- An error has a cause. -/
theorem cause (herror : t.upgradeError = true) :
    (∃ m ∈ ms.modules, .finished m.name true ∉ t.log ∧
      (.finished m.name false ∈ t.log ∨ ∃ n, .recursionRaised n ∈ t.log)) ∨
    ∃ n, .pollRaised n ∈ t.log := by
  rcases h.reached.explained.error herror with ⟨m, hm, hfalse⟩ | hpoll | ⟨hrec, m, hm, hwait⟩ | hjam
  · exact .inl ⟨m, hm, h.not_finished_true (.inl hfalse), .inl hfalse⟩
  · exact .inr hpoll
  · exact .inl ⟨m, hm, h.not_finished_true (.inr hwait), .inr hrec⟩
  · exact absurd hjam (h.reached.not_jammed h.exit)

end Ended

/-- Every module comes from an entry. -/
theorem exists_kept {config : List (ModuleJson ν π)} (hinit : init config = .ok ms)
    {m : Module ν π} (hm : m ∈ ms.modules) : ∃ entry ∈ config, ms.Kept entry m := by
  obtain ⟨entry, hentry, rfl⟩ := mem_loadModules (modules_of_init hinit ▸ hm)
  exact ⟨entry, hentry, hm, rfl, rfl⟩

omit [DecidableEq ν] in
theorem Kept.eq {entry : ModuleJson ν π} {m m' : Module ν π} (h : ms.Kept entry m)
    (h' : ms.Kept entry m') : m = m' :=
  eq_of_name_eq h.1 h'.1 (h.2.1.trans h'.2.1.symm)

/-- An upgrade with the outcome it should have is regular. -/
theorem regular_of_upgradeOutcome {config : List (ModuleJson ν π)}
    (h : ms.UpgradeOutcome newJob limit config) : ms.Regular newJob limit config := by
  obtain ⟨fuel, r, t, hrun, hiff, -⟩ := h
  obtain ⟨hloop, rfl⟩ := upgrade_eq_some_iff.1 hrun
  have hend := ended_of_whileLoop hloop
  refine ⟨hend.not_creationRaised, ?_, ?_⟩
  · by_cases hkept : ∀ entry ∈ config, ∃ m, ms.Kept entry m
    · exact .inl hkept
    · have herror : t.upgradeError = true := by
        by_contra herror
        rw [if_neg herror] at hiff
        exact hkept fun entry hentry => (hiff.1 rfl entry hentry).imp fun _ h => h.1
      right
      rcases hend.cause herror with ⟨m, -, -, hfalse | ⟨n, hrec⟩⟩ | ⟨n, hpoll⟩
      · exact ⟨m.name, .inl (hend.occurs_iff.2 hfalse)⟩
      · exact ⟨n, .inr (.inr (hend.occurs_iff.2 hrec))⟩
      · exact ⟨n, .inr (.inl (hend.occurs_iff.2 hpoll))⟩
  · by_cases hpoll : ∃ n, ms.Occurs newJob limit (.pollRaised n)
    · obtain ⟨n, hn⟩ := hpoll
      have herror := hend.upgradeError (.inr (.inl (hend.occurs_iff.1 hn)))
      rw [if_pos herror] at hiff
      have hfail : ¬ ∀ entry ∈ config, ms.Succeeded t.log entry := fun hall => by
        cases hiff.2 hall
      rw [not_forall] at hfail
      obtain ⟨entry, hfail⟩ := hfail
      rw [Classical.not_imp] at hfail
      exact .inr ⟨entry, hfail.1, fun m hm htrue =>
        hfail.2 ⟨m, hm, hend.occurs_iff.1 htrue⟩⟩
    · exact .inl fun n hn => hpoll ⟨n, hn⟩

/-- **The outcome of an upgrade.** For every configuration without a cycle and all jobs that stop,
the upgrade has the outcome it should have if and only if it is regular. -/
theorem upgradeOutcome_iff (config : List (ModuleJson ν π)) (ms : Modules ν π)
    (newJob : NewJob ν π) (limit : ℕ) (hinit : init config = .ok ms)
    (hacyclic : ∀ n, ¬ TransGen ms.DependsOn n n) (hnew : NewJobsStop newJob) :
    ms.UpgradeOutcome newJob limit config ↔ ms.Regular newJob limit config := by
  refine ⟨regular_of_upgradeOutcome, fun hreg => ?_⟩
  have hfree : ∀ s, ms.Reached newJob limit s → ¬ ms.Jammed s := by
    rintro s hs ⟨m, hm, hstuck⟩
    exact hreg.created m.name ⟨s, hs, hs.explained.stuck m.name hstuck⟩
  obtain ⟨fuel, t, hloop⟩ := whileLoop_ends hnew hacyclic hfree reached_initial
  have hend := ended_of_whileLoop hloop
  refine ⟨fuel, _, t, upgrade_eq_some_iff.2 ⟨hloop, rfl⟩, ?_, ?_⟩
  · cases herror : t.upgradeError with
    | false =>
      refine ⟨fun _ entry hentry => ?_, fun _ => rfl⟩
      rcases hreg.entries with hkept | ⟨n, hn⟩
      · obtain ⟨m, hm⟩ := hkept entry hentry
        exact ⟨m, hm, hend.finished herror hm.1⟩
      · rw [hend.occurs_iff, hend.occurs_iff, hend.occurs_iff] at hn
        exact absurd (hend.upgradeError hn) (by simp [herror])
    | true =>
      refine iff_of_false (by simp) fun hall => ?_
      rcases hend.cause herror with ⟨m, hm, hnot, -⟩ | ⟨n, hpoll⟩
      · obtain ⟨entry, hentry, hkept⟩ := exists_kept hinit hm
        obtain ⟨m', hkept', htrue⟩ := hall entry hentry
        exact hnot (hkept'.eq hkept ▸ htrue)
      · rcases hreg.polls with hnone | ⟨entry, hentry, hno⟩
        · exact hnone n (hend.occurs_iff.2 hpoll)
        · obtain ⟨m, hkept, htrue⟩ := hall entry hentry
          exact hno m hkept (hend.occurs_iff.2 htrue)
  · intro e he
    split at he
    · exact ⟨(Except.error.inj he).symm, fun m hm hbegun => hend.stopped hm hbegun⟩
    · cases he

theorem gatewayFirst_acyclic (n : ℕ) : ¬ TransGen gatewayFirst.DependsOn n n := by
  have hlt : ∀ {i j : ℕ}, gatewayFirst.DependsOn i j → i < j := by
    rintro i j ⟨m, hm, rfl, hj, -⟩
    simp only [gatewayFirst, List.mem_cons, List.not_mem_nil, or_false] at hm
    rcases hm with rfl | rfl
    · simp only [List.mem_singleton] at hj
      simp [hj]
    · cases hj
  have htrans : ∀ {i j : ℕ}, TransGen gatewayFirst.DependsOn i j → i < j := by
    intro i j h
    induction h with
    | single h => exact hlt h
    | tail _ h ih => exact ih.trans (hlt h)
  exact fun h => absurd (htrans h) (lt_irrefl n)

theorem upgradeOutcome_iff_gateway :
    gatewayFirst.UpgradeOutcome (fun _ _ _ => some successfulJob) 3
      [⟨0, (), some [1]⟩, ⟨1, (), none⟩] := by
  refine (upgradeOutcome_iff [⟨0, (), some [1]⟩, ⟨1, (), none⟩] gatewayFirst
    (fun _ _ _ => some successfulJob) 3 rfl gatewayFirst_acyclic ?_).2 ?_
  · rintro log n config job ⟨⟩
    exact ⟨1, rfl⟩
  · obtain ⟨r, t, hloop, hlog⟩ := exists_outcome
      (gatewayFirst.whileLoop (fun _ _ _ => some successfulJob) 3 9) Campaign.initial
      (fun _ t => t.log = [.begun 1, .finished 1 true, .begun 0, .finished 0 true])
      (by decide +kernel)
    have hend := ended_of_whileLoop hloop
    refine ⟨hend.not_creationRaised, .inl ?_, .inl fun n hn => ?_⟩
    · simp [Kept, gatewayFirst]
    · simpa [hlog] using hend.occurs_iff.1 hn

end Modules

/-! ### The jobs `Module.upgrade` creates -/

/-- A value in the parameters of a job. -/
inductive Param (π : Type)
  | text (s : String)
  | config (c : π)
  | dict (entries : List (String × Param π))

/-- The parameters that `Module.upgrade` passes: `module_job_params` is empty. -/
def moduleParams (config : π) : List (String × Param π) :=
  [("MODULE_PARAM", .dict [("MODULE_CONFIG", .config config)])]

/-- The fields of an `UpgradeJob`. -/
structure UpgradeJob where
  upgradeSuccess : Bool
  upgradeDone : Bool

/-- The constructor of `UpgradeJob`. `exists` is `os.path.exists` of a joined path, or nothing if
the path cannot be joined. -/
def UpgradeJob.init (pathExists : Param π → Param π → Option Bool)
    (params : List (String × Param π)) : Option UpgradeJob := do
  let dataPath ← params.lookup "data_path"
  let package ← params.lookup "package"
  let found ← pathExists dataPath package
  if !found then
    return ⟨false, true⟩
  let dataPath ← params.lookup "data_path"
  let packageChecksum ← params.lookup "package_checksum"
  let found ← pathExists dataPath packageChecksum
  return if found then ⟨true, false⟩ else ⟨false, true⟩

def UpgradeJob.isRunning (job : UpgradeJob) : Answer :=
  if job.upgradeDone then .stopped
  else if !job.upgradeSuccess then .raised
  else .running

/-- The thread of the job is never started, so that its fields keep their values. -/
def UpgradeJob.toJob (job : UpgradeJob) : Job := ⟨fun _ => job.isRunning, job.upgradeSuccess⟩

def newUpgradeJob (pathExists : Param π → Param π → Option Bool) : NewJob ν π :=
  fun _ _ config => (UpgradeJob.init pathExists (moduleParams config)).map UpgradeJob.toJob

omit [DecidableEq ν] in
theorem newUpgradeJob_eq_none (pathExists : Param π → Param π → Option Bool)
    (log : List (CampaignEvent ν)) (n : ν) (config : π) :
    newUpgradeJob pathExists log n config = none :=
  rfl

/-- **An upgrade of one module with the constructor of `UpgradeJob` never ends**: the constructor
reads `data_path`, which the parameters do not have. -/
theorem upgrade_never_ends : ∃ (config : List (ModuleJson ℕ Unit)) (ms : Modules ℕ Unit),
    Modules.init config = .ok ms ∧ (∀ n, ¬ TransGen ms.DependsOn n n) ∧
      Modules.NewJobsStop (newUpgradeJob (ν := ℕ) (π := Unit) fun _ _ => some true) ∧
      ¬ ms.UpgradeOutcome (newUpgradeJob fun _ _ => some true) 3 config := by
  refine ⟨[⟨0, (), some [1]⟩, ⟨1, (), none⟩], Modules.gatewayFirst, rfl,
    Modules.gatewayFirst_acyclic, ?_, fun hout => ?_⟩
  · intro log n config job hjob
    simp [newUpgradeJob_eq_none] at hjob
  · have hexit : (Campaign.initial (ν := ℕ)).exitUpgrade = false := rfl
    obtain ⟨t, ht⟩ := Modules.exists_step Modules.gatewayFirst
      (newUpgradeJob fun _ _ => some true) 3 hexit
    obtain ⟨r, t', ht', hlog⟩ := exists_outcome
      (Modules.gatewayFirst.round (newUpgradeJob fun _ _ => some true) 3) Campaign.initial
      (fun _ t => .creationRaised 1 ∈ t.log) (by decide +kernel)
    obtain ⟨-, rfl⟩ : r = .ok () ∧ t' = t := by simpa [ht.2] using ht'.symm
    exact (Modules.regular_of_upgradeOutcome hout).created 1
      ⟨t', Modules.reached_initial.path (.cons ht (.nil t')), hlog⟩

end EcuUpgrade
