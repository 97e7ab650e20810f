import EcuUpgrade.Campaign.Modules

/-!
# The actions of an upgrade

Every round of `Modules.upgrade` is a sequence of actions: a module is begun, a job is asked, an
exception is caught. The actions leave out in which order the loops visit the modules; what they
need to happen says what the loops made sure of. A property that every action keeps holds
throughout an upgrade.

## Main definitions

* `Modules.Act`: the actions.
* `Modules.Settled`: what the loops have seen of every module when they set `exit_upgrade`.

## Main results

* `Module.checkUpgradeDone_triple`, `Module.upgrade_triple`: the cases of the two functions.
* `Modules.round_acts`: **a round is a sequence of actions, and one that sets `exit_upgrade` ends
  in a settled state.**
* `Modules.Reached.acts`: every state an upgrade reaches is reached by actions.
-/

namespace EcuUpgrade

open Programs Programs.Prog Runs Relation

variable {ν π : Type}

/-! ### States of a module -/

/-- The module was not begun. -/
def ModuleState.Waiting (st : ModuleState) : Prop :=
  st.upgradeDone = false ∧ st.inUpgrading = false

namespace Campaign

variable (s : Campaign ν) (n : ν) (job : Job) (success : Bool)

/-- The job that `check_upgrade_done` asks. -/
def Polls (job : Job) : Prop :=
  (s.modules n).inUpgrading = true ∧ (s.modules n).upgradeJob = some job

/-- The module is in upgrading without a job: `check_upgrade_done` raises. -/
def Stuck : Prop := (s.modules n).inUpgrading = true ∧ (s.modules n).upgradeJob = none

@[simp] theorem log_emit (e : CampaignEvent ν) : (s.emit e).log = s.log ++ [e] := rfl

@[simp] theorem modules_emit (e : CampaignEvent ν) : (s.emit e).modules = s.modules := rfl

@[simp] theorem upgradeError_emit (e : CampaignEvent ν) :
    (s.emit e).upgradeError = s.upgradeError := rfl

@[simp] theorem log_handled : s.handled.log = s.log ++ [.caught] := rfl

@[simp] theorem modules_handled : s.handled.modules = s.modules := rfl

@[simp] theorem upgradeError_handled : s.handled.upgradeError = true := rfl

variable [DecidableEq ν]

@[simp] theorem log_setJob : (s.setJob n job).log = s.log := rfl

@[simp] theorem upgradeError_setJob : (s.setJob n job).upgradeError = s.upgradeError := rfl

@[simp] theorem log_markBegun : (s.markBegun n).log = s.log ++ [.begun n] := rfl

@[simp] theorem upgradeError_markBegun : (s.markBegun n).upgradeError = s.upgradeError := rfl

@[simp] theorem log_markFinished :
    (s.markFinished n success).log = s.log ++ [.finished n success] := rfl

@[simp] theorem upgradeError_markFinished :
    (s.markFinished n success).upgradeError = s.upgradeError := rfl

@[simp] theorem modules_markBegun : (s.markBegun n).modules =
    Function.update s.modules n { s.modules n with inUpgrading := true } := rfl

@[simp] theorem modules_setJob : (s.setJob n job).modules =
    Function.update s.modules n { s.modules n with upgradeJob := some job } := rfl

@[simp] theorem modules_markFinished : (s.markFinished n success).modules =
    Function.update s.modules n { s.modules n with
      upgradeDone := true, inUpgrading := false, upgradeSuccess := success } := rfl

end Campaign

/-! ### The cases of the functions of a module -/

variable [DecidableEq ν] {newJob : NewJob ν π} {m : Module ν π} {P : Campaign ν → Prop}
  {Q : Unit → Campaign ν → Prop} {E : CampaignExc → Campaign ν → Prop}

/-- `upgrade` does nothing to a module that was begun; otherwise the job is created or not. -/
theorem Module.upgrade_triple
    (hskip : ∀ s, P s → ¬ (s.modules m.name).Waiting → Q () s)
    (hraised : ∀ s, P s → (s.modules m.name).Waiting →
      newJob (s.markBegun m.name).log m.name m.config = none →
      E .jobCreation ((s.markBegun m.name).emit (.creationRaised m.name)))
    (hbegun : ∀ s job, P s → (s.modules m.name).Waiting →
      newJob (s.markBegun m.name).log m.name m.config = some job →
      Q () ((s.markBegun m.name).setJob m.name job)) :
    Triple P (m.upgrade newJob) Q E := by
  intro s hs r t h
  unfold Module.upgrade at h
  rw [bind_of_ok (get_apply s)] at h
  split at h
  · next hdone =>
    obtain ⟨rfl, rfl⟩ : .ok () = r ∧ s = t := by simpa using h
    refine hskip s hs fun hwait => ?_
    simp [hwait.1, hwait.2] at hdone
  · next hdone =>
    have hwait : (s.modules m.name).Waiting := by simpa [ModuleState.Waiting] using hdone
    rw [bind_of_ok (modify_apply _ s)] at h
    cases hjob : newJob (s.markBegun m.name).log m.name m.config with
    | none =>
      rw [hjob] at h
      obtain ⟨rfl, rfl⟩ : .error .jobCreation = r ∧ _ = t := by simpa [bind_apply] using h
      exact hraised s hs hwait hjob
    | some job =>
      rw [hjob] at h
      obtain ⟨rfl, rfl⟩ : .ok () = r ∧ _ = t := by simpa using h
      exact hbegun s job hs hwait hjob

/-- `check_upgrade_done` does nothing to a module that is not in upgrading; otherwise it asks the
job, if there is one. -/
theorem Module.checkUpgradeDone_triple
    (hidle : ∀ s, P s → (s.modules m.name).inUpgrading = false → Q () s)
    (hstuck : ∀ s, P s → s.Stuck m.name → E .attributeError s)
    (hrunning : ∀ s job, P s → s.Polls m.name job → job.isRunning 0 = .running →
      Q () (s.setJob m.name job.next))
    (hstopped : ∀ s job, P s → s.Polls m.name job → job.isRunning 0 = .stopped →
      Q () ((s.setJob m.name job.next).markFinished m.name job.isSuccess))
    (hraised : ∀ s job, P s → s.Polls m.name job → job.isRunning 0 = .raised →
      E .jobPoll ((s.setJob m.name job.next).emit (.pollRaised m.name))) :
    Triple P m.checkUpgradeDone Q E := by
  intro s hs r t h
  unfold Module.checkUpgradeDone at h
  rw [bind_of_ok (get_apply s)] at h
  split at h
  · next hup =>
    cases hjob : (s.modules m.name).upgradeJob with
    | none =>
      obtain ⟨rfl, rfl⟩ : .error .attributeError = r ∧ s = t := by simpa [hjob] using h
      exact hstuck s hs ⟨hup, hjob⟩
    | some job =>
      simp only [hjob] at h
      rw [bind_of_ok (modify_apply _ s)] at h
      cases hrun : job.isRunning 0 with
      | running =>
        obtain ⟨rfl, rfl⟩ : .ok () = r ∧ _ = t := by simpa [hrun, bind_apply] using h
        exact hrunning s job hs ⟨hup, hjob⟩ hrun
      | stopped =>
        obtain ⟨rfl, rfl⟩ : .ok () = r ∧ _ = t := by simpa [hrun, bind_apply] using h
        exact hstopped s job hs ⟨hup, hjob⟩ hrun
      | raised =>
        obtain ⟨rfl, rfl⟩ : .error .jobPoll = r ∧ _ = t := by simpa [hrun, bind_apply] using h
        exact hraised s job hs ⟨hup, hjob⟩ hrun
  · next hup =>
    obtain ⟨rfl, rfl⟩ : .ok () = r ∧ s = t := by simpa using h
    exact hidle s hs (by simpa using hup)

/-! ### The actions -/

namespace Modules

variable (ms : Modules ν π) (newJob : NewJob ν π)

/-- Module `m` is begun only when this holds. -/
structure Ready (s : Campaign ν) (m : Module ν π) : Prop where
  mem : m ∈ ms.modules
  going : s.upgradeError = false
  waiting : (s.modules m.name).Waiting
  done : ∀ d, ms.DependsOn m.name d → (s.modules d).upgradeDone = true

/-- What an upgrade does between two points of its loops. An exception is caught before anything
else happens. -/
inductive Act : Campaign ν → Campaign ν → Prop
  | assigned {s t : Campaign ν} (hmodules : t.modules = s.modules) (hlog : t.log = s.log)
      (herror : t.upgradeError = s.upgradeError ∨
        t.upgradeError = true ∧ ∃ m ∈ ms.modules, (s.modules m.name).upgradeSuccess = false) :
      Act s t
  | begun {s : Campaign ν} {m : Module ν π} {job : Job} (h : ms.Ready s m)
      (hjob : newJob (s.markBegun m.name).log m.name m.config = some job) :
      Act s ((s.markBegun m.name).setJob m.name job)
  | creationRaised {s : Campaign ν} {m : Module ν π} (h : ms.Ready s m)
      (hjob : newJob (s.markBegun m.name).log m.name m.config = none) :
      Act s ((s.markBegun m.name).emit (.creationRaised m.name)).handled
  | recursionRaised {s : Campaign ν} {m : Module ν π} (d : ν) (hm : m ∈ ms.modules)
      (hwait : (s.modules m.name).Waiting) (hgoing : s.upgradeError = false) :
      Act s (s.emit (.recursionRaised d)).handled
  | stillRunning {s : Campaign ν} {m : Module ν π} {job : Job} (hm : m ∈ ms.modules)
      (h : s.Polls m.name job) (hrun : job.isRunning 0 = .running) :
      Act s (s.setJob m.name job.next)
  | finished {s : Campaign ν} {m : Module ν π} {job : Job} (hm : m ∈ ms.modules)
      (h : s.Polls m.name job) (hstop : job.isRunning 0 = .stopped) :
      Act s { (s.setJob m.name job.next).markFinished m.name job.isSuccess with
        upgradeError := s.upgradeError || !job.isSuccess }
  | pollRaised {s : Campaign ν} {m : Module ν π} {job : Job} (hm : m ∈ ms.modules)
      (h : s.Polls m.name job) (hraise : job.isRunning 0 = .raised) :
      Act s ((s.setJob m.name job.next).emit (.pollRaised m.name)).handled
  | attributeError {s : Campaign ν} {m : Module ν π} (hm : m ∈ ms.modules)
      (h : s.Stuck m.name) : Act s s.handled

/-- Some actions lead from `u` to `s`, and `exit_upgrade` is not set. -/
def Turning (u s : Campaign ν) : Prop :=
  ReflTransGen (ms.Act newJob) u s ∧ s.exitUpgrade = false

/-- An exception was raised in `s`: catching it is the next action. -/
def Raising (u s : Campaign ν) : Prop := ms.Turning newJob u s.handled

variable {ms newJob} {u : Campaign ν}

theorem Turning.act {s t : Campaign ν} (h : ms.Turning newJob u s) (hact : ms.Act newJob s t)
    (hexit : t.exitUpgrade = s.exitUpgrade) : ms.Turning newJob u t :=
  ⟨h.1.tail hact, hexit.trans h.2⟩

/-! ### Beginning upgrades -/

variable (ms newJob u) in
/-- Upgrades are being begun since `u`: no module gets done, and nothing happens to a module that
waits for one that is not done. -/
structure Beginning (s : Campaign ν) : Prop where
  turning : ms.Turning newJob u s
  going : s.upgradeError = false
  allDone : s.allDone = true
  done : ∀ n, (s.modules n).upgradeDone = (u.modules n).upgradeDone
  kept : ∀ n d, ms.DependsOn n d → (u.modules d).upgradeDone = false →
    s.modules n = u.modules n

/-- A module whose dependencies are all done is begun. -/
theorem upgrade_beginning (hm : m ∈ ms.modules)
    (hdeps : ∀ d, ms.DependsOn m.name d → (u.modules d).upgradeDone = true) :
    Triple (ms.Beginning newJob u) (m.upgrade newJob) (fun _ => ms.Beginning newJob u)
      (fun _ => ms.Raising newJob u) := by
  have hready : ∀ s, ms.Beginning newJob u s → (s.modules m.name).Waiting → ms.Ready s m :=
    fun s hs hwait => ⟨hm, hs.going, hwait, fun d hd => by rw [hs.done, hdeps d hd]⟩
  refine Module.upgrade_triple ?_ ?_ ?_
  · intro s hs _
    exact hs
  · intro s hs hwait hjob
    exact hs.turning.act (.creationRaised (hready s hs hwait) hjob) rfl
  · intro s job hs hwait hjob
    refine ⟨hs.turning.act (.begun (hready s hs hwait) hjob) rfl, hs.going, hs.allDone, fun n => ?_,
      fun n d hd hundone => ?_⟩
    · by_cases hn : n = m.name
      · rw [← hs.done, hn]
        simp
      · rw [← hs.done]
        simp [hn]
    · have hn : n ≠ m.name := by
        rintro rfl
        rw [hdeps d hd] at hundone
        exact Bool.noConfusion hundone
      rw [← hs.kept n d hd hundone]
      simp [hn]

omit [DecidableEq ν] in
/-- The rule of the loop over the dependencies, for an invariant under which no module gets done:
the loop tells whether all of them are done, and has made the call for each that is not. -/
theorem visitDependens_triple {visit : Module ν π → Prog (Campaign ν) CampaignExc Unit}
    {I : Campaign ν → Prop} {C : Module ν π → Prop} {E : CampaignExc → Campaign ν → Prop}
    (hdone : ∀ s, I s → ∀ n, (s.modules n).upgradeDone = (u.modules n).upgradeDone)
    (dependens : List (Module ν π)) (allDependenDone : Bool)
    (hvisit : ∀ d ∈ dependens, (u.modules d.name).upgradeDone = false →
      Triple I (visit d) (fun _ s => I s ∧ C d) E) :
    Triple I (visitDependens visit dependens allDependenDone)
      (fun b s => I s ∧ (b = true ↔ allDependenDone = true ∧
        ∀ d ∈ dependens, (u.modules d.name).upgradeDone = true) ∧
        ∀ d ∈ dependens, (u.modules d.name).upgradeDone = false → C d) E := by
  induction dependens generalizing allDependenDone with
  | nil => exact .pure _ fun s hs => ⟨hs, by simp, by simp⟩
  | cons d dependens ih =>
    have hrest := fun b => ih b fun x hx => hvisit x (List.mem_cons_of_mem _ hx)
    unfold visitDependens
    refine .read fun s hs => ?_
    rw [hdone s hs]
    cases hd : (u.modules d.name).upgradeDone with
    | false =>
      refine ((hvisit d List.mem_cons_self hd).at hs).bind fun _ => ?_
      intro t ⟨ht, hC⟩
      refine (hrest false).mono (fun _ h => h) (fun b t h => ⟨h.1, ?_, ?_⟩) (fun _ _ h => h) t ht
      · rw [List.forall_mem_cons, h.2.1, hd]
        simp
      · rw [List.forall_mem_cons]
        exact ⟨fun _ => hC, h.2.2⟩
    | true =>
      refine ((hrest allDependenDone).at hs).mono (fun _ h => h) (fun b t h => ⟨h.1, ?_, ?_⟩)
        (fun _ _ h => h)
      · rw [List.forall_mem_cons, h.2.1, hd]
        simp
      · rw [List.forall_mem_cons, hd]
        exact ⟨fun h => Bool.noConfusion h, h.2.2⟩

/-- The body of `upgrade_module`, for calls of itself on modules that are not done. -/
theorem upgradeModuleBody_beginning {visit : Module ν π → Prog (Campaign ν) CampaignExc Unit}
    (hm : m ∈ ms.modules)
    (hvisit : ∀ d ∈ ms.modules, ms.DependsOn m.name d.name →
      (u.modules d.name).upgradeDone = false → (u.modules m.name).Waiting →
      Triple (ms.Beginning newJob u) (visit d) (fun _ => ms.Beginning newJob u)
        (fun _ => ms.Raising newJob u)) :
    Triple (ms.Beginning newJob u) (ms.upgradeModuleBody newJob visit m)
      (fun _ => ms.Beginning newJob u) (fun _ => ms.Raising newJob u) := by
  have hdeps := mem_map_dependenModules hm
  refine .read fun s hs => ?_
  split
  · exact .pure _ fun t ht => ht ▸ hs
  · next hnew =>
    have hwait : (s.modules m.name).Waiting := by simpa [ModuleState.Waiting] using hnew
    have hloop := visitDependens_triple (C := fun _ => True) (fun _ h => h.done)
      (ms.dependenModules m) true fun d hd hundone =>
        have hdep : ms.DependsOn m.name d.name := (hdeps _).1 (List.mem_map_of_mem hd)
        (hvisit d (mem_of_mem_dependenModules hd) hdep hundone
          (hs.kept _ _ hdep hundone ▸ hwait)).mono (fun _ h => h) (fun _ _ h => ⟨h, trivial⟩)
            fun _ _ h => h
    refine (hloop.at hs).bind fun b => ?_
    cases b with
    | false => exact .pure _ fun t ht => ht.1
    | true =>
      intro t ht
      refine upgrade_beginning hm (fun n hn => ?_) t ht.1
      obtain ⟨d, hd, rfl⟩ := List.mem_map.1 ((hdeps n).2 hn)
      exact (ht.2.1.1 rfl).2 d hd

/-- `upgrade_module` begins only modules whose dependencies are all done. -/
theorem upgradeModule_beginning (limit : ℕ) (hm : m ∈ ms.modules) :
    Triple (ms.Beginning newJob u) (ms.upgradeModule newJob limit m)
      (fun _ => ms.Beginning newJob u) (fun _ => ms.Raising newJob u) := by
  induction limit generalizing m with
  | zero =>
    refine upgradeModuleBody_beginning hm fun d hd hdep hundone hwait => ?_
    rintro s hs r t ⟨⟩
    have hkept := hs.kept _ _ hdep hundone
    exact hs.turning.act (.recursionRaised d.name hm (hkept ▸ hwait) hs.going) rfl
  | succ limit ih => exact upgradeModuleBody_beginning hm fun d hd _ _ _ => ih hd

/-! ### Looking at the modules -/

variable (ms) in
/-- What the loops have seen of every module when they set `exit_upgrade`. -/
def Settled (s : Campaign ν) : Prop :=
  (∀ m ∈ ms.modules, (s.modules m.name).upgradeDone = true ∧
    ((s.modules m.name).upgradeSuccess = true ∨ s.upgradeError = true)) ∨
  s.upgradeError = true ∧ ∀ m ∈ ms.modules, (s.modules m.name).inUpgrading = false

variable (ms newJob u) in
/-- The loop after the upgrades were begun has passed the modules `done`. -/
structure Checking (done : List (Module ν π)) (s : Campaign ν) : Prop where
  turning : ms.Turning newJob u s
  allDone : s.allDone = true → ∀ m ∈ done, (s.modules m.name).upgradeDone = true
  success : ∀ m ∈ done, (s.modules m.name).upgradeSuccess = true ∨ s.upgradeError = true

/-- The state with the failure of a module noted. -/
def noted (s : Campaign ν) (n : ν) : Campaign ν :=
  { s with upgradeError := s.upgradeError || !(s.modules n).upgradeSuccess }

theorem Turning.noted {s : Campaign ν} (h : ms.Turning newJob u s) (hm : m ∈ ms.modules) :
    ms.Turning newJob u (noted s m.name) := by
  refine h.act (.assigned rfl rfl ?_) rfl
  cases hs : (s.modules m.name).upgradeSuccess with
  | true => exact .inl (by simp [Modules.noted, hs])
  | false => exact .inr ⟨by simp [Modules.noted, hs], m, hm, hs⟩

/-- `check_upgrade_done` in the loop after the upgrades were begun. -/
theorem checkUpgradeDone_checking (hm : m ∈ ms.modules) (done : List (Module ν π)) :
    Triple (ms.Checking newJob u done) m.checkUpgradeDone
      (fun _ s => ms.Turning newJob u (noted s m.name) ∧
        (s.allDone = true → ∀ m' ∈ done, (s.modules m'.name).upgradeDone = true) ∧
        ∀ m' ∈ done, (s.modules m'.name).upgradeSuccess = true ∨
          (noted s m.name).upgradeError = true)
      (fun _ => ms.Raising newJob u) := by
  refine Module.checkUpgradeDone_triple ?_ ?_ ?_ ?_ ?_
  · intro s hs _
    refine ⟨hs.turning.noted hm, hs.allDone,
      fun m' hm' => (hs.success m' hm').imp_right fun h => ?_⟩
    simp [noted, h]
  · intro s hs hstuck
    exact hs.turning.act (.attributeError hm hstuck) rfl
  · intro s job hs hpolls hrun
    refine ⟨(hs.turning.act (.stillRunning hm hpolls hrun) rfl).noted hm, fun hall m' hm' => ?_,
      fun m' hm' => ?_⟩
    · have hdone := hs.allDone hall m' hm'
      by_cases hn : m'.name = m.name
      · simpa [hn] using hdone
      · simpa [hn] using hdone
    · by_cases hn : m'.name = m.name
      · refine (hs.success m' hm').imp (fun h => by simpa [hn] using h) fun h => ?_
        simp [noted, h]
      · refine (hs.success m' hm').imp (fun h => by simpa [hn] using h) fun h => ?_
        simp [noted, h]
  · intro s job hs hpolls hstop
    refine ⟨?_, fun hall m' hm' => ?_, fun m' hm' => ?_⟩
    · have hfin := hs.turning.act (.finished hm hpolls hstop) rfl
      simpa [noted] using hfin
    · have hdone := hs.allDone hall m' hm'
      by_cases hn : m'.name = m.name
      · simp [hn]
      · simpa [hn] using hdone
    · by_cases hn : m'.name = m.name
      · cases hsuccess : job.isSuccess with
        | true => exact .inl (by simp [hn])
        | false => exact .inr (by simp [noted])
      · refine (hs.success m' hm').imp (fun h => by simpa [hn] using h) fun h => ?_
        simp [noted, h]
  · intro s job hs hpolls hraise
    exact hs.turning.act (.pollRaised hm hpolls hraise) rfl

/-- A turn of the loop after the upgrades were begun. -/
theorem checkAll_checking (hm : m ∈ ms.modules) (done : List (Module ν π)) :
    Triple (ms.Checking newJob u done) (checkAll m) (fun _ => ms.Checking newJob u (done ++ [m]))
      (fun _ => ms.Raising newJob u) := by
  unfold checkAll
  refine (checkUpgradeDone_checking hm done).bind fun _ => ?_
  refine Triple.bind (Q := fun _ s => ms.Turning newJob u (noted s m.name) ∧
    (s.allDone = true → ∀ m' ∈ done ++ [m], (s.modules m'.name).upgradeDone = true) ∧
    ∀ m' ∈ done, (s.modules m'.name).upgradeSuccess = true ∨
      (noted s m.name).upgradeError = true) (.modify _ ?_) fun _ => .modify _ ?_
  · rintro s ⟨hturning, hall, hsuccess⟩
    split
    · exact ⟨hturning.act (.assigned rfl rfl (.inl rfl)) rfl, by simp, hsuccess⟩
    · next hdone =>
      refine ⟨hturning, fun h => ?_, hsuccess⟩
      rw [List.forall_mem_append, List.forall_mem_singleton]
      exact ⟨hall h, by simpa using hdone⟩
  · rintro s ⟨hturning, hall, hsuccess⟩
    split
    · next hfail =>
      have herror : (noted s m.name).upgradeError = true := by simp [noted, hfail]
      exact ⟨hturning.act (.assigned rfl rfl (.inl herror.symm)) rfl, hall, fun _ _ => .inr rfl⟩
    · next hsucc =>
      have herror : (noted s m.name).upgradeError = s.upgradeError := by
        simp at hsucc
        simp [noted, hsucc]
      refine ⟨hturning.act (.assigned rfl rfl (.inl herror.symm)) rfl, hall, ?_⟩
      rw [List.forall_mem_append, List.forall_mem_singleton]
      exact ⟨fun m' hm' => herror ▸ hsuccess m' hm', .inl (by simpa using hsucc)⟩

variable (ms newJob u) in
/-- The loop after an error has passed the modules `done`. -/
structure Awaiting (done : List (Module ν π)) (s : Campaign ν) : Prop where
  turning : ms.Turning newJob u s
  error : s.upgradeError = true
  allDone : s.allDone = true → ∀ m ∈ done, (s.modules m.name).inUpgrading = false

/-- A turn of the loop after an error. -/
theorem awaitAll_awaiting (hm : m ∈ ms.modules) (done : List (Module ν π)) :
    Triple (ms.Awaiting newJob u done) (awaitAll m) (fun _ => ms.Awaiting newJob u (done ++ [m]))
      (fun _ => ms.Raising newJob u) := by
  unfold awaitAll
  refine Triple.bind (Q := fun _ => ms.Awaiting newJob u done) ?_ fun _ => .modify _ fun s hs => ?_
  · refine Module.checkUpgradeDone_triple ?_ ?_ ?_ ?_ ?_
    · intro s hs _
      exact hs
    · intro s hs hstuck
      exact hs.turning.act (.attributeError hm hstuck) rfl
    · intro s job hs hpolls hrun
      refine ⟨hs.turning.act (.stillRunning hm hpolls hrun) rfl, hs.error, fun hall m' hm' => ?_⟩
      have hidle := hs.allDone hall m' hm'
      by_cases hn : m'.name = m.name
      · simpa [hn] using hidle
      · simpa [hn] using hidle
    · intro s job hs hpolls hstop
      refine ⟨?_, hs.error, fun hall m' hm' => ?_⟩
      · have hfin := hs.turning.act (.finished hm hpolls hstop) rfl
        refine hfin.act (.assigned rfl rfl (.inl ?_)) rfl
        simp [hs.error]
      · have hidle := hs.allDone hall m' hm'
        by_cases hn : m'.name = m.name
        · simp [hn]
        · simpa [hn] using hidle
    · intro s job hs hpolls hraise
      exact hs.turning.act (.pollRaised hm hpolls hraise) rfl
  · split
    · exact ⟨hs.turning.act (.assigned rfl rfl (.inl rfl)) rfl, hs.error, by simp⟩
    · next hidle =>
      refine ⟨hs.turning, hs.error, fun hall => ?_⟩
      rw [List.forall_mem_append, List.forall_mem_singleton]
      exact ⟨hs.allDone hall, by simpa using hidle⟩

/-! ### A round -/

/-- Setting `exit_upgrade` when all modules are done. -/
theorem exit_triple :
    Triple (fun s => ms.Turning newJob u s ∧ (s.allDone = true → ms.Settled s))
      (Prog.modify fun s => if s.allDone then { s with exitUpgrade := true } else s :
        Prog (Campaign ν) CampaignExc Unit)
      (fun _ t => ReflTransGen (ms.Act newJob) u t ∧ (t.exitUpgrade = true → ms.Settled t))
      (fun _ => ms.Raising newJob u) := by
  refine .modify _ fun s hs => ?_
  split
  · next hall => exact ⟨hs.1.1.tail (.assigned rfl rfl (.inl rfl)), fun _ => hs.2 hall⟩
  · exact ⟨hs.1.1, fun hexit => absurd hexit (by simp [hs.1.2])⟩

/-- The `try` block. -/
theorem tryBlock_acts (limit : ℕ) (hexit : u.exitUpgrade = false) :
    Triple (· = u) (ms.tryBlock newJob limit)
      (fun _ t => ReflTransGen (ms.Act newJob) u t ∧ (t.exitUpgrade = true → ms.Settled t))
      (fun _ => ms.Raising newJob u) := by
  unfold tryBlock
  refine Triple.bind (Q := fun _ s => s.modules = u.modules ∧ s.upgradeError = u.upgradeError ∧
    s.allDone = true ∧ ms.Turning newJob u s) (.modify _ ?_) fun _ => .read ?_
  · rintro s rfl
    exact ⟨rfl, rfl, rfl, .single (.assigned rfl rfl (.inl rfl)), hexit⟩
  · rintro s ⟨hmodules, herror, hall, hturning⟩
    dsimp only
    split
    · next hgoing =>
      have hbegin : Triple (ms.Beginning newJob u) (forM ms.modules (ms.upgradeModule newJob limit))
          (fun _ => ms.Beginning newJob u) (fun _ => ms.Raising newJob u) :=
        Triple.forM (I := fun _ => ms.Beginning newJob u) ms.modules fun done m rest hl =>
          upgradeModule_beginning limit (by simp [hl])
      have hcheck : Triple (ms.Checking newJob u []) (forM ms.modules checkAll)
          (fun _ => ms.Checking newJob u ms.modules) (fun _ => ms.Raising newJob u) :=
        Triple.forM ms.modules fun done m rest hl => checkAll_checking (by simp [hl]) done
      have hstart : ms.Beginning newJob u s :=
        ⟨hturning, by simpa using hgoing, hall, by simp [hmodules], by simp [hmodules]⟩
      refine (hbegin.at hstart).bind fun _ => ?_
      refine Triple.bind (hcheck.mono (fun t ht => ⟨ht.turning, by simp, by simp⟩)
        (fun _ _ h => h) (fun _ _ h => h)) fun _ => ?_
      exact exit_triple.mono (fun t ht => ⟨ht.turning, fun h => .inl fun m hm =>
        ⟨ht.allDone h m hm, ht.success m hm⟩⟩) (fun _ _ h => h) (fun _ _ h => h)
    · next hbroken =>
      have hawait : Triple (ms.Awaiting newJob u []) (forM ms.modules awaitAll)
          (fun _ => ms.Awaiting newJob u ms.modules) (fun _ => ms.Raising newJob u) :=
        Triple.forM ms.modules fun done m rest hl => awaitAll_awaiting (by simp [hl]) done
      have hstart : ms.Awaiting newJob u [] s := ⟨hturning, by simpa using hbroken, by simp⟩
      refine (hawait.at hstart).bind fun _ => ?_
      exact exit_triple.mono (fun t ht => ⟨ht.turning, fun h => .inr ⟨ht.error, ht.allDone h⟩⟩)
        (fun _ _ h => h) (fun _ _ h => h)

/-- A round returns after some actions, and if it sets `exit_upgrade`, in a settled state. -/
theorem round_triple (limit : ℕ) (hexit : u.exitUpgrade = false) :
    Triple (· = u) (ms.round newJob limit)
      (fun _ t => ReflTransGen (ms.Act newJob) u t ∧ (t.exitUpgrade = true → ms.Settled t))
      (fun _ _ => False) := by
  refine (tryBlock_acts limit hexit).tryCatch fun _ => .modify _ fun s hs => ?_
  exact ⟨hs.1, fun h => absurd h (by simp [hs.2])⟩

/-! ### Every round ends -/

theorem upgrade_total (m : Module ν π) : Total (m.upgrade newJob) := by
  refine Total.bind .get fun s => ?_
  split
  · exact .pure _
  · refine Total.bind (.modify _) fun _ => ?_
    split
    · exact Total.bind (.modify _) fun _ => .raise _
    · exact .modify _

theorem checkUpgradeDone_total (m : Module ν π) : Total m.checkUpgradeDone := by
  refine Total.bind .get fun s => .ite ?_ (.pure _)
  split
  · exact .raise _
  · refine Total.bind (.modify _) fun _ => ?_
    split
    · exact .pure _
    · exact .modify _
    · exact Total.bind (.modify _) fun _ => .raise _

omit [DecidableEq ν] in
theorem visitDependens_total {visit : Module ν π → Prog (Campaign ν) CampaignExc Unit}
    (hvisit : ∀ d, Total (visit d)) (dependens : List (Module ν π)) (b : Bool) :
    Total (visitDependens visit dependens b) := by
  induction dependens generalizing b with
  | nil => exact .pure _
  | cons d dependens ih =>
    exact Total.bind .get fun s => .ite (Total.bind (hvisit d) fun _ => ih false) (ih b)

theorem upgradeModuleBody_total {visit : Module ν π → Prog (Campaign ν) CampaignExc Unit}
    (hvisit : ∀ d, Total (visit d)) (m : Module ν π) :
    Total (ms.upgradeModuleBody newJob visit m) := by
  refine Total.bind .get fun s => .ite (.pure _) ?_
  exact Total.bind (visitDependens_total hvisit _ _) fun b => .ite (upgrade_total m) (.pure _)

theorem upgradeModule_total (limit : ℕ) (m : Module ν π) :
    Total (ms.upgradeModule newJob limit m) := by
  induction limit generalizing m with
  | zero => exact upgradeModuleBody_total (fun d => Total.bind (.modify _) fun _ => .raise _) m
  | succ limit ih => exact upgradeModuleBody_total ih m

variable (ms newJob) in
theorem tryBlock_total (limit : ℕ) : Total (ms.tryBlock newJob limit) := by
  refine Total.bind (.modify _) fun _ => Total.bind .get fun s => ?_
  dsimp only
  refine .ite ?_ ?_
  · refine Total.bind (.forM (upgradeModule_total limit) _) fun _ =>
      Total.bind (.forM (fun m => ?_) _) fun _ => .modify _
    exact Total.bind (checkUpgradeDone_total m) fun _ => Total.bind (.modify _) fun _ => .modify _
  · refine Total.bind (.forM (fun m => ?_) _) fun _ => .modify _
    exact Total.bind (checkUpgradeDone_total m) fun _ => .modify _

variable (ms newJob) in
/-- **Every round returns**, after some actions, and if it sets `exit_upgrade`, in a settled
state. -/
theorem round_acts (limit : ℕ) (hexit : u.exitUpgrade = false) :
    ∃ t, ms.round newJob limit u = some (.ok (), t) ∧ ReflTransGen (ms.Act newJob) u t ∧
      (t.exitUpgrade = true → ms.Settled t) := by
  obtain ⟨r, t, h⟩ :=
    Total.tryCatch (tryBlock_total ms newJob limit) (fun _ => .modify _) u
  cases r with
  | ok a => exact ⟨t, h, (round_triple limit hexit).ok rfl h⟩
  | error e => exact ((round_triple limit hexit).error rfl h).elim

/-! ### The loop -/

variable {limit : ℕ} {s t : Campaign ν}

theorem whileLoop_of_exit (fuel : ℕ) (h : u.exitUpgrade = true) :
    ms.whileLoop newJob limit (fuel + 1) u = some (.ok (), u) := by
  refine loop_of_some ?_
  rw [bind_of_ok (get_apply u), if_pos h]
  rfl

theorem whileLoop_of_step (fuel : ℕ) (h : ms.CampaignStep newJob limit u () t) :
    ms.whileLoop newJob limit (fuel + 1) u = ms.whileLoop newJob limit fuel t := by
  refine loop_of_none ?_
  rw [bind_of_ok (get_apply u), if_neg (by simp [h.1]), bind_of_ok h.2]
  rfl

variable (ms newJob) in
theorem exists_step (limit : ℕ) (h : u.exitUpgrade = false) :
    ∃ t, ms.CampaignStep newJob limit u () t := by
  obtain ⟨t, ht, -⟩ := round_acts ms newJob limit h
  exact ⟨t, h, ht⟩

/-- The loop ends in a state with `exit_upgrade` that its rounds lead to. -/
theorem path_of_whileLoop {fuel : ℕ} {r : Except CampaignExc Unit}
    (h : ms.whileLoop newJob limit fuel u = some (r, t)) :
    r = .ok () ∧ t.exitUpgrade = true ∧ ∃ tr, Path (ms.CampaignStep newJob limit) u tr t := by
  induction fuel generalizing u with
  | zero => cases h
  | succ fuel ih =>
    cases hexit : u.exitUpgrade with
    | true =>
      rw [whileLoop_of_exit fuel hexit] at h
      obtain ⟨rfl, rfl⟩ : .ok () = r ∧ u = t := by simpa using h
      exact ⟨rfl, hexit, [], .nil u⟩
    | false =>
      obtain ⟨v, hv⟩ := exists_step ms newJob limit hexit
      rw [whileLoop_of_step fuel hv] at h
      obtain ⟨hr, ht, tr, htr⟩ := ih h
      exact ⟨hr, ht, () :: tr, .cons hv htr⟩

/-- The loop that ends from `u` ends from every state its rounds lead to. -/
theorem whileLoop_of_path {fuel : ℕ} {r : Except CampaignExc Unit} {tr : List Unit}
    (hpath : Path (ms.CampaignStep newJob limit) u tr s)
    (h : ms.whileLoop newJob limit fuel u = some (r, t)) :
    ∃ fuel, ms.whileLoop newJob limit fuel s = some (r, t) := by
  induction hpath generalizing fuel with
  | nil u => exact ⟨fuel, h⟩
  | cons hs _ ih =>
    cases fuel with
    | zero => cases h
    | succ fuel =>
      rw [whileLoop_of_step fuel hs] at h
      exact ih h

theorem Reached.path {tr : List Unit} (h : ms.Reached newJob limit u)
    (hpath : Path (ms.CampaignStep newJob limit) u tr t) : ms.Reached newJob limit t := by
  obtain ⟨tr', hrun⟩ := h
  exact ⟨tr' ++ tr, hrun.append hpath⟩

theorem reached_initial : ms.Reached newJob limit Campaign.initial := ⟨[], .start rfl⟩

/-! ### Reached states -/

/-- Every state an upgrade reaches is reached by actions. -/
theorem Reached.acts (h : ms.Reached newJob limit s) :
    ReflTransGen (ms.Act newJob) Campaign.initial s := by
  obtain ⟨tr, hrun⟩ := h
  refine Run.invariant (P := fun _ s => ReflTransGen (ms.Act newJob) Campaign.initial s) ?_ ?_ hrun
  · rintro s rfl
    exact .refl
  · rintro tr s l t - ih ⟨hexit, hround⟩
    exact ih.trans ((round_triple limit hexit).ok rfl hround).1

/-- **What every action keeps holds throughout an upgrade.** -/
theorem Reached.invariant {I : Campaign ν → Prop} (h : ms.Reached newJob limit s)
    (h₀ : I Campaign.initial) (hact : ∀ s t, I s → ms.Act newJob s t → I t) : I s := by
  have hacts := h.acts
  clear h
  induction hacts with
  | refl => exact h₀
  | tail _ hst ih => exact hact _ _ ih hst

end Modules

end EcuUpgrade
