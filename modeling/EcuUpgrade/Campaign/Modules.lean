import EcuUpgrade.Lib.Programs
import EcuUpgrade.Lib.Runs
import Mathlib.Data.List.Nodup
import Mathlib.Logic.Function.Basic
import Mathlib.Logic.Relation

/-!
# Upgrading all modules of a configuration

`Module` and `Modules` of `ecu_modules.py`. The fields of a module that never change are kept apart
from those an upgrade changes. What a job does is given: whether its constructor returns, and if it
does, how each later call of `is_running` ends and what `is_success` answers.

## Main definitions

* `Modules`, `Modules.init`: the modules of an accepted configuration.
* `Job`, `Campaign`, `CampaignEvent`: the state of an upgrade and the record of what happened.
* `Modules.upgradeModule`, `Modules.upgrade`: the recursion over the dependencies, and the loop.
* `Modules.CampaignStep`: one turn of the loop.
-/

namespace EcuUpgrade

open Programs Programs.Prog Runs

variable {ν π : Type}

/-! ### The configuration -/

/-- An entry of `config['modules']`. -/
structure ModuleJson (ν π : Type) where
  name : ν
  config : π
  dependens : Option (List ν)

/-- The fields of a module that keep their value. -/
structure Module (ν π : Type) where
  name : ν
  config : π
  dependens : List ν
  deriving DecidableEq

def Module.init (jsonModule : ModuleJson ν π) : Module ν π :=
  ⟨jsonModule.name, jsonModule.config, jsonModule.dependens.getD []⟩

/-- What the constructor of `Modules` raises. -/
structure InvalidDepend (ν : Type) where
  name : ν
  dependen : ν
  deriving DecidableEq

/-- The arguments of the exception. -/
def InvalidDepend.args [ToString ν] (e : InvalidDepend ν) : ν × String :=
  (e.name, "depend on invalid depend module: " ++ toString e.dependen)

/-- The modules of a configuration, in the order of the dictionary. Names are distinct, and every
dependency is the name of a module. -/
structure Modules (ν π : Type) where
  modules : List (Module ν π)
  nodup : (modules.map Module.name).Nodup
  closed : ∀ m ∈ modules, ∀ d ∈ m.dependens, d ∈ modules.map Module.name

variable [DecidableEq ν]

/-- `self.modules[m.name] = m`: a name that is there keeps its place. -/
def setItem (modules : List (Module ν π)) (m : Module ν π) : List (Module ν π) :=
  if m.name ∈ modules.map Module.name then
    modules.map fun x => if x.name = m.name then m else x
  else modules ++ [m]

/-- The dictionary of the modules. -/
def loadModules (config : List (ModuleJson ν π)) : List (Module ν π) :=
  config.foldl (fun modules jsonModule => setItem modules (.init jsonModule)) []

/-- The first dependency that is not the name of a module. -/
def invalidDepend (modules : List (Module ν π)) : Option (InvalidDepend ν) :=
  (modules.flatMap fun m => m.dependens.map (InvalidDepend.mk m.name)).find?
    fun e => e.dependen ∉ modules.map Module.name

theorem map_name_setItem (modules : List (Module ν π)) (m : Module ν π) :
    (setItem modules m).map Module.name =
      if m.name ∈ modules.map Module.name then modules.map Module.name
      else modules.map Module.name ++ [m.name] := by
  unfold setItem
  split
  · rw [List.map_map]
    refine List.map_congr_left fun x _ => ?_
    dsimp only [Function.comp_apply]
    split
    · next h => exact h.symm
    · rfl
  · rw [List.map_append, List.map_singleton]

theorem nodup_loadModules (config : List (ModuleJson ν π)) :
    ((loadModules config).map Module.name).Nodup := by
  unfold loadModules
  suffices h : ∀ modules : List (Module ν π), (modules.map Module.name).Nodup →
      ((config.foldl (fun modules jsonModule => setItem modules (.init jsonModule))
        modules).map Module.name).Nodup from h [] List.nodup_nil
  induction config with
  | nil => exact fun _ h => h
  | cons jsonModule config ih =>
    intro modules h
    refine ih _ ?_
    rw [map_name_setItem]
    split
    · exact h
    · next hnew => exact List.nodup_append.2 ⟨h, List.pairwise_singleton _ _, by
        rintro a ha b hb rfl
        exact hnew (List.mem_singleton.1 hb ▸ ha)⟩

theorem closed_of_invalidDepend {modules : List (Module ν π)} (h : invalidDepend modules = none) :
    ∀ m ∈ modules, ∀ d ∈ m.dependens, d ∈ modules.map Module.name := by
  intro m hm d hd
  have hvalid := List.find?_eq_none.1 h ⟨m.name, d⟩
    (List.mem_flatMap.2 ⟨m, hm, List.mem_map.2 ⟨d, hd, rfl⟩⟩)
  simpa using hvalid

/-- The constructor of `Modules`. -/
def Modules.init (config : List (ModuleJson ν π)) : Except (InvalidDepend ν) (Modules ν π) :=
  match h : invalidDepend (loadModules config) with
  | some e => .error e
  | none => .ok ⟨loadModules config, nodup_loadModules config, closed_of_invalidDepend h⟩

theorem mem_setItem {modules : List (Module ν π)} {m x : Module ν π} (h : x ∈ setItem modules m) :
    x = m ∨ x ∈ modules := by
  unfold setItem at h
  split at h
  · obtain ⟨y, hy, rfl⟩ := List.mem_map.1 h
    split
    · exact .inl rfl
    · exact .inr hy
  · rw [List.mem_append, List.mem_singleton] at h
    exact h.symm

theorem mem_loadModules {config : List (ModuleJson ν π)} {m : Module ν π}
    (h : m ∈ loadModules config) : ∃ entry ∈ config, Module.init entry = m := by
  suffices hfold : ∀ modules : List (Module ν π),
      m ∈ config.foldl (fun modules jsonModule => setItem modules (.init jsonModule)) modules →
      m ∈ modules ∨ ∃ entry ∈ config, Module.init entry = m by
    exact (hfold [] h).resolve_left List.not_mem_nil
  clear h
  induction config with
  | nil => exact fun modules h => .inl h
  | cons jsonModule config ih =>
    intro modules h
    rcases ih _ h with hmem | ⟨entry, hentry, rfl⟩
    · rcases mem_setItem hmem with rfl | hold
      · exact .inr ⟨jsonModule, List.mem_cons_self, rfl⟩
      · exact .inl hold
    · exact .inr ⟨entry, List.mem_cons_of_mem _ hentry, rfl⟩

theorem Modules.modules_of_init {config : List (ModuleJson ν π)} {ms : Modules ν π}
    (h : Modules.init config = .ok ms) : ms.modules = loadModules config := by
  unfold Modules.init at h
  split at h
  · cases h
  · cases h
    rfl

/-- `module.dependen_modules`: a module does not wait for itself. -/
def Modules.dependenModules (ms : Modules ν π) (m : Module ν π) : List (Module ν π) :=
  (m.dependens.filter (· ≠ m.name)).filterMap fun d => ms.modules.find? (·.name = d)

/-- The module named `n` names the other module `d` as one it depends on. -/
def Modules.DependsOn (ms : Modules ν π) (n d : ν) : Prop :=
  ∃ m ∈ ms.modules, m.name = n ∧ d ∈ m.dependens ∧ d ≠ n

/-! ### Jobs -/

/-- How a call of `is_running` ends. -/
inductive Answer
  | running
  | stopped
  | raised
  deriving DecidableEq

/-- A job: how the calls of `is_running` to come end, and the result `is_success` answers. -/
structure Job where
  isRunning : ℕ → Answer
  isSuccess : Bool

/-- The job after a call of `is_running`. -/
def Job.next (job : Job) : Job := { job with isRunning := fun k => job.isRunning (k + 1) }

/-- What happens in an upgrade. -/
inductive CampaignEvent (ν : Type)
  | begun (name : ν)
  | creationRaised (name : ν)
  | finished (name : ν) (success : Bool)
  | pollRaised (name : ν)
  | recursionRaised (name : ν)
  | caught
  deriving DecidableEq

/-- The constructor of `UpgradeJob`, after what happened so far: it returns a job or raises. -/
abbrev NewJob (ν π : Type) := List (CampaignEvent ν) → ν → π → Option Job

/-! ### The upgrade -/

/-- The fields of a module that an upgrade changes. -/
structure ModuleState where
  upgradeDone : Bool := false
  inUpgrading : Bool := false
  upgradeSuccess : Bool := true
  upgradeJob : Option Job := none

/-- The modules, the variables of `Modules.upgrade`, and the record of what happened. -/
structure Campaign (ν : Type) where
  modules : ν → ModuleState
  exitUpgrade : Bool
  upgradeError : Bool
  allDone : Bool
  log : List (CampaignEvent ν)

/-- The state after the constructors, with the first assignments of `Modules.upgrade`. -/
def Campaign.initial : Campaign ν := ⟨fun _ => {}, false, false, false, []⟩

/-- What a statement of the upgrade may raise. -/
inductive CampaignExc
  | recursionError
  | jobCreation
  | jobPoll
  | attributeError
  | upgradeFailed
  deriving DecidableEq

namespace Campaign

/-- An assignment to fields of a module. -/
def assign (s : Campaign ν) (n : ν) (f : ModuleState → ModuleState) : Campaign ν :=
  { s with modules := Function.update s.modules n (f (s.modules n)) }

def emit (s : Campaign ν) (e : CampaignEvent ν) : Campaign ν := { s with log := s.log ++ [e] }

/-- `self.in_upgrading = True`. -/
def markBegun (s : Campaign ν) (n : ν) : Campaign ν :=
  (s.assign n fun st => { st with inUpgrading := true }).emit (.begun n)

/-- `self.upgrade_job = job`, also for a job that was asked. -/
def setJob (s : Campaign ν) (n : ν) (job : Job) : Campaign ν :=
  s.assign n fun st => { st with upgradeJob := some job }

/-- The assignments of `check_upgrade_done` for a job that stopped. -/
def markFinished (s : Campaign ν) (n : ν) (success : Bool) : Campaign ν :=
  (s.assign n fun st => { st with
    upgradeDone := true, inUpgrading := false, upgradeSuccess := success }).emit
      (.finished n success)

/-- The exception handler of `Modules.upgrade`. -/
def handled (s : Campaign ν) : Campaign ν := { s.emit .caught with upgradeError := true }

end Campaign

/-- `Module.upgrade`. -/
def Module.upgrade (newJob : NewJob ν π) (m : Module ν π) :
    Prog (Campaign ν) CampaignExc Unit := do
  let s ← Prog.get
  if (s.modules m.name).upgradeDone || (s.modules m.name).inUpgrading then
    return ()
  Prog.modify fun s => s.markBegun m.name
  match newJob (s.markBegun m.name).log m.name m.config with
  | none =>
    Prog.modify fun s => s.emit (.creationRaised m.name)
    raise .jobCreation
  | some job => Prog.modify fun s => s.setJob m.name job

/-- `Module.check_upgrade_done`. A module whose constructor of the job raised has no job. -/
def Module.checkUpgradeDone (m : Module ν π) : Prog (Campaign ν) CampaignExc Unit := do
  let s ← Prog.get
  if (s.modules m.name).inUpgrading then
    match (s.modules m.name).upgradeJob with
    | none => raise .attributeError
    | some job =>
      Prog.modify fun s => s.setJob m.name job.next
      match job.isRunning 0 with
      | .running => return ()
      | .stopped => Prog.modify fun s => s.markFinished m.name job.isSuccess
      | .raised =>
        Prog.modify fun s => s.emit (.pollRaised m.name)
        raise .jobPoll

/-- The loop of `upgrade_module` over the modules a module depends on, with what is done for one
that is not done. -/
def visitDependens (upgradeModule : Module ν π → Prog (Campaign ν) CampaignExc Unit) :
    List (Module ν π) → Bool → Prog (Campaign ν) CampaignExc Bool
  | [], allDependenDone => return allDependenDone
  | d :: dependens, allDependenDone => do
    let s ← Prog.get
    if !(s.modules d.name).upgradeDone then
      upgradeModule d
      visitDependens upgradeModule dependens false
    else visitDependens upgradeModule dependens allDependenDone

namespace Modules

variable (ms : Modules ν π) (newJob : NewJob ν π)

/-- The body of `upgrade_module`, with what a call of itself does. -/
def upgradeModuleBody (upgradeModule : Module ν π → Prog (Campaign ν) CampaignExc Unit)
    (m : Module ν π) : Prog (Campaign ν) CampaignExc Unit := do
  let s ← Prog.get
  if (s.modules m.name).upgradeDone || (s.modules m.name).inUpgrading then
    return ()
  let allDependenDone ← visitDependens upgradeModule (ms.dependenModules m) true
  if allDependenDone then m.upgrade newJob

/-- A call beyond the recursion limit of the interpreter. -/
def recursionError (m : Module ν π) : Prog (Campaign ν) CampaignExc Unit := do
  Prog.modify fun s => s.emit (.recursionRaised m.name)
  raise .recursionError

/-- `Modules.upgrade_module`, where calls may be nested up to a limit. -/
def upgradeModule : ℕ → Module ν π → Prog (Campaign ν) CampaignExc Unit
  | 0 => ms.upgradeModuleBody newJob recursionError
  | limit + 1 => ms.upgradeModuleBody newJob (upgradeModule limit)

/-- The loop over the modules after the upgrades that can begin were begun. -/
def checkAll (m : Module ν π) : Prog (Campaign ν) CampaignExc Unit := do
  m.checkUpgradeDone
  Prog.modify fun s => if !(s.modules m.name).upgradeDone then { s with allDone := false } else s
  Prog.modify fun s =>
    if !(s.modules m.name).upgradeSuccess then { s with upgradeError := true } else s

/-- The loop over the modules after an error. -/
def awaitAll (m : Module ν π) : Prog (Campaign ν) CampaignExc Unit := do
  m.checkUpgradeDone
  Prog.modify fun s => if (s.modules m.name).inUpgrading then { s with allDone := false } else s

/-- The `try` block of `Modules.upgrade`. -/
def tryBlock (limit : ℕ) : Prog (Campaign ν) CampaignExc Unit := do
  Prog.modify fun s => { s with allDone := true }
  let s ← Prog.get
  if !s.upgradeError then
    forM ms.modules (ms.upgradeModule newJob limit)
    forM ms.modules checkAll
  else
    forM ms.modules awaitAll
  Prog.modify fun s => if s.allDone then { s with exitUpgrade := true } else s

/-- The body of the `while` loop. -/
def round (limit : ℕ) : Prog (Campaign ν) CampaignExc Unit :=
  (ms.tryBlock newJob limit).tryCatch fun _ => Prog.modify Campaign.handled

/-- `while not exit_upgrade`. -/
def whileLoop (limit fuel : ℕ) : Prog (Campaign ν) CampaignExc Unit :=
  loop fuel do
    let s ← Prog.get
    if s.exitUpgrade then
      return some ()
    ms.round newJob limit
    return none

/-- `Modules.upgrade`. -/
def upgrade (limit fuel : ℕ) : Prog (Campaign ν) CampaignExc Unit := do
  ms.whileLoop newJob limit fuel
  let s ← Prog.get
  if s.upgradeError then raise .upgradeFailed

/-- One turn of the `while` loop. -/
def CampaignStep (limit : ℕ) (s : Campaign ν) (_ : Unit) (t : Campaign ν) : Prop :=
  s.exitUpgrade = false ∧ ms.round newJob limit s = some (.ok (), t)

/-- `s` is reached after some turns of the `while` loop. -/
def Reached (limit : ℕ) (s : Campaign ν) : Prop :=
  ∃ tr, Run (· = Campaign.initial) (ms.CampaignStep newJob limit) tr s

variable {ms}

omit [DecidableEq ν] in
/-- Two modules of one name are the same. -/
theorem eq_of_name_eq {m m' : Module ν π} (hm : m ∈ ms.modules) (hm' : m' ∈ ms.modules)
    (h : m.name = m'.name) : m = m' :=
  List.inj_on_of_nodup_map ms.nodup hm hm' h

theorem mem_of_mem_dependenModules {m d : Module ν π} (h : d ∈ ms.dependenModules m) :
    d ∈ ms.modules := by
  obtain ⟨n, -, hfind⟩ := List.mem_filterMap.1 h
  exact List.mem_of_find?_eq_some hfind

/-- What a module waits for is what it depends on. -/
theorem mem_map_dependenModules {m : Module ν π} (hm : m ∈ ms.modules) (n : ν) :
    n ∈ (ms.dependenModules m).map Module.name ↔ ms.DependsOn m.name n := by
  constructor
  · intro h
    obtain ⟨d, hd, rfl⟩ := List.mem_map.1 h
    obtain ⟨n, hn, hfind⟩ := List.mem_filterMap.1 hd
    obtain ⟨hmem, hne⟩ := List.mem_filter.1 hn
    have hname : d.name = n := by simpa using List.find?_some hfind
    exact ⟨m, hm, rfl, hname ▸ hmem, by simpa [hname] using hne⟩
  · rintro ⟨m', hm', hname, hmem, hne⟩
    obtain rfl := eq_of_name_eq hm' hm hname
    obtain ⟨d, hd, rfl⟩ := List.mem_map.1 (ms.closed m' hm n hmem)
    refine List.mem_map.2 ⟨d, List.mem_filterMap.2 ⟨d.name, ?_, ?_⟩, rfl⟩
    · exact List.mem_filter.2 ⟨hmem, by simpa using hne⟩
    · cases hfind : ms.modules.find? (·.name = d.name) with
      | none => simpa using List.find?_eq_none.1 hfind d hd
      | some x =>
        have hx : x.name = d.name := by simpa using List.find?_some hfind
        rw [eq_of_name_eq (List.mem_of_find?_eq_some hfind) hd hx]

end Modules

end EcuUpgrade
