import EcuUpgrade.Campaign.Actions
import EcuUpgrade.Lib.Schedules

/-!
# Upgrades begin in the order of the dependencies

What an upgrade records is the history of a schedule: a module is begun when all it depends on has
finished with success and nothing went wrong before. Whether a job failed is not what
`upgrade_module` looks at; it looks at `upgrade_done`, and the variable `upgrade_error` keeps it
from being called once a job failed.

## Main definitions

* `CampaignEvent.label`, `ModuleState.status`: what the record and a module mean in the schedule.
* `Modules.Shows`: the schedule that the record of an upgrade is the history of.
* `Modules.BeginsSafely`: what is promised before a module is begun.

## Main results

* `Modules.act_orderly`: every action of an upgrade follows the schedule.
* `Modules.scheduling_safe`: **in every upgrade of every configuration, every module is begun
  safely.**
-/

namespace EcuUpgrade

open Programs Runs Relation Schedules

variable {ν π : Type}

/-- What an event means in a schedule. -/
def CampaignEvent.label : CampaignEvent ν → Label ν
  | .begun n => .begun n
  | .finished n success => .finished n success
  | .creationRaised _ | .pollRaised _ | .recursionRaised _ | .caught => .fault

/-- What a module does in a schedule. -/
def ModuleState.status (st : ModuleState) : Status :=
  if st.upgradeDone then .ended st.upgradeSuccess
  else if st.inUpgrading then .running
  else .waiting

/-- A module that is done is no longer in upgrading, one that is not done has not failed, and one
that was not begun has no job. -/
structure ModuleState.Wf (st : ModuleState) : Prop where
  notDone : st.inUpgrading = true → st.upgradeDone = false
  success : st.upgradeDone = false → st.upgradeSuccess = true
  fresh : st.Waiting → st.upgradeJob = none

theorem ModuleState.Waiting.status {st : ModuleState} (h : st.Waiting) : st.status = .waiting := by
  simp [ModuleState.status, h.1, h.2]

theorem ModuleState.Wf.status_of_inUpgrading {st : ModuleState} (h : st.Wf)
    (hup : st.inUpgrading = true) : st.status = .running := by
  simp [ModuleState.status, h.notDone hup, hup]

theorem ModuleState.status_of_upgradeDone {st : ModuleState} (h : st.upgradeDone = true) :
    st.status = .ended st.upgradeSuccess := by
  simp [ModuleState.status, h]

variable [DecidableEq ν]

namespace Modules

variable {ms : Modules ν π} {newJob : NewJob ν π}

variable (ms) in
/-- The record is the history of a schedule in state `a`, and the modules are as `a` says. -/
structure Shows (s : Campaign ν) (a : State ν) : Prop where
  scheduled : Scheduled ms.DependsOn (s.log.map CampaignEvent.label) a
  status : ∀ n, a.status n = (s.modules n).status
  wf : ∀ n, (s.modules n).Wf

/-- Nothing that a schedule sees. -/
theorem Shows.congr {s t : Campaign ν} {a : State ν} (h : ms.Shows s a) (hlog : t.log = s.log)
    (hmodules : t.modules = s.modules) : ms.Shows t a :=
  ⟨hlog ▸ h.scheduled, hmodules ▸ h.status, hmodules ▸ h.wf⟩

theorem Shows.fault {s : Campaign ν} {a : State ν} (h : ms.Shows s a) {e : CampaignEvent ν}
    (he : e.label = .fault) : ms.Shows (s.emit e) (a.after .fault) := by
  refine ⟨?_, h.status, h.wf⟩
  rw [Campaign.log_emit, List.map_append, List.map_singleton, he]
  exact h.scheduled.snoc trivial

theorem Shows.handled {s : Campaign ν} {a : State ν} (h : ms.Shows s a) :
    ms.Shows s.handled (a.after .fault) :=
  (h.fault (e := .caught) rfl).congr rfl rfl

theorem Shows.setJob {s : Campaign ν} {a : State ν} (h : ms.Shows s a) {n : ν}
    (hup : (s.modules n).inUpgrading = true) (job : Job) : ms.Shows (s.setJob n job) a := by
  refine ⟨h.scheduled, fun n' => ?_, fun n' => ?_⟩
  · rw [h.status]
    by_cases hn : n' = n
    · simp [hn, ModuleState.status]
    · simp [hn]
  · by_cases hn : n' = n
    · subst hn
      simpa using ⟨(h.wf n').1, (h.wf n').2, fun hwait => absurd hwait.2 (by simp [hup])⟩
    · simpa [hn] using h.wf n'

theorem Shows.markBegun {s : Campaign ν} {a : State ν} (h : ms.Shows s a) {n : ν}
    (hwait : (s.modules n).Waiting) (hgoing : a.halted = false)
    (hdeps : ∀ d, ms.DependsOn n d → a.status d = .ended true) :
    ms.Shows (s.markBegun n) (a.after (.begun n)) := by
  refine ⟨?_, fun n' => ?_, fun n' => ?_⟩
  · rw [Campaign.log_markBegun, List.map_append, List.map_singleton]
    exact h.scheduled.snoc ⟨(h.status n).trans hwait.status, hgoing, hdeps⟩
  · by_cases hn : n' = n
    · simp [hn, State.after, ModuleState.status, hwait.1]
    · simp [hn, State.after, h.status]
  · by_cases hn : n' = n
    · subst hn
      simpa using ⟨fun _ => hwait.1, (h.wf n').2, fun hnew => absurd hnew.2 (by simp)⟩
    · simpa [hn] using h.wf n'

theorem Shows.markFinished {s : Campaign ν} {a : State ν} (h : ms.Shows s a) {n : ν}
    (hup : (s.modules n).inUpgrading = true) (success : Bool) :
    ms.Shows (s.markFinished n success) (a.after (.finished n success)) := by
  refine ⟨?_, fun n' => ?_, fun n' => ?_⟩
  · rw [Campaign.log_markFinished, List.map_append, List.map_singleton]
    exact h.scheduled.snoc ((h.status n).trans ((h.wf n).status_of_inUpgrading hup))
  · by_cases hn : n' = n
    · simp [hn, State.after, ModuleState.status]
    · simp [hn, State.after, h.status]
  · by_cases hn : n' = n
    · subst hn
      simpa using ⟨by simp, by simp, fun hnew => absurd hnew.1 (by simp)⟩
    · simpa [hn] using h.wf n'

/-! ### The invariant -/

variable (ms) in
/-- The record is the history of a schedule, and `upgrade_error` is set once it is halted. -/
def Orderly (s : Campaign ν) : Prop :=
  ∃ a, ms.Shows s a ∧ (a.halted = true → s.upgradeError = true)

theorem orderly_initial : ms.Orderly Campaign.initial :=
  ⟨.initial, ⟨.start rfl, fun _ => rfl,
      fun _ => ⟨fun h => Bool.noConfusion h, fun _ => rfl, fun _ => rfl⟩⟩,
    fun h => Bool.noConfusion h⟩

/-- A module that is ready waits for nothing in the schedule. -/
theorem Ready.begun {s : Campaign ν} {a : State ν} {m : Module ν π} (hready : ms.Ready s m)
    (h : ms.Shows s a) (herror : a.halted = true → s.upgradeError = true) :
    a.halted = false ∧ ms.Shows (s.markBegun m.name) (a.after (.begun m.name)) := by
  have hgoing : a.halted = false := by
    by_contra hhalted
    rw [Bool.not_eq_false] at hhalted
    exact absurd (herror hhalted) (by simp [hready.going])
  refine ⟨hgoing, h.markBegun hready.waiting hgoing fun d hd => ?_⟩
  rw [h.status, ModuleState.status_of_upgradeDone (hready.done d hd)]
  -- a module that failed would have halted the schedule
  cases hsuccess : (s.modules d).upgradeSuccess with
  | true => rfl
  | false =>
    have hend : a.status d = .ended false := by
      rw [h.status, ModuleState.status_of_upgradeDone (hready.done d hd), hsuccess]
    have hhalted : a.halted = true :=
      (halted_iff h.scheduled).2 (.inr ⟨d, (finished_mem_iff h.scheduled d false).2 hend⟩)
    exact absurd hhalted (by simp [hgoing])

/-- **Every action follows the schedule.** -/
theorem act_orderly {s t : Campaign ν} (h : ms.Orderly s) (hact : ms.Act newJob s t) :
    ms.Orderly t := by
  obtain ⟨a, ha, herror⟩ := h
  cases hact with
  | assigned hmodules hlog hassign =>
    refine ⟨a, ha.congr hlog hmodules, fun hhalted => ?_⟩
    rcases hassign with heq | ⟨hset, -⟩
    · exact heq.trans (herror hhalted)
    · exact hset
  | @begun m job hready hjob =>
    obtain ⟨hgoing, hbegun⟩ := hready.begun ha herror
    refine ⟨_, hbegun.setJob (by simp) job, fun hhalted => ?_⟩
    exact absurd hhalted (by simp [State.after, hgoing])
  | creationRaised hready hjob =>
    exact ⟨_, ((hready.begun ha herror).2.fault rfl).handled, fun _ => rfl⟩
  | recursionRaised d hm hwait hgoing => exact ⟨_, (ha.fault rfl).handled, fun _ => rfl⟩
  | @stillRunning m job hm hpolls hrun => exact ⟨a, ha.setJob hpolls.1 job.next, herror⟩
  | @finished m job hm hpolls hstop =>
    have hup : ((s.setJob m.name job.next).modules m.name).inUpgrading = true := by
      simpa using hpolls.1
    refine ⟨_, ((ha.setJob hpolls.1 job.next).markFinished hup job.isSuccess).congr rfl rfl, ?_⟩
    intro hhalted
    simp only [State.after, Bool.or_eq_true] at hhalted
    rw [Bool.or_eq_true]
    exact hhalted.imp_left herror
  | pollRaised hm hpolls hraise =>
    exact ⟨_, ((ha.setJob hpolls.1 _).fault rfl).handled, fun _ => rfl⟩
  | attributeError hm hstuck => exact ⟨_, ha.handled, fun _ => rfl⟩

theorem Reached.orderly {limit : ℕ} {s : Campaign ν} (h : ms.Reached newJob limit s) :
    ms.Orderly s :=
  h.invariant orderly_initial fun _ _ => act_orderly

/-! ### Safety -/

variable (ms) in
/-- What is promised of the record before module `n` is begun: `n` was not begun before, every
module it depends on, directly or not, was begun and has finished with success, no job failed and
no exception was caught. -/
def BeginsSafely (pre : List (CampaignEvent ν)) : CampaignEvent ν → Prop
  | .begun n => .begun n ∉ pre ∧
      (∀ d, TransGen ms.DependsOn n d → .begun d ∈ pre ∧ .finished d true ∈ pre) ∧
      (∀ d, .finished d false ∉ pre) ∧ .caught ∉ pre
  | _ => True

omit [DecidableEq ν] in
theorem begun_mem_map_label {pre : List (CampaignEvent ν)} {n : ν} :
    .begun n ∈ pre.map CampaignEvent.label ↔ .begun n ∈ pre := by
  rw [List.mem_map]
  constructor
  · rintro ⟨e, he, hlabel⟩
    cases e <;> cases hlabel
    exact he
  · exact fun h => ⟨_, h, rfl⟩

omit [DecidableEq ν] in
theorem finished_mem_map_label {pre : List (CampaignEvent ν)} {n : ν} {success : Bool} :
    .finished n success ∈ pre.map CampaignEvent.label ↔ .finished n success ∈ pre := by
  rw [List.mem_map]
  constructor
  · rintro ⟨e, he, hlabel⟩
    cases e <;> cases hlabel
    exact he
  · exact fun h => ⟨_, h, rfl⟩

/-- **Scheduling safety.** However the jobs behave, whatever the dependencies are and after any
number of rounds, every module was begun safely. -/
theorem scheduling_safe (ms : Modules ν π) (newJob : NewJob ν π) (limit : ℕ) (s : Campaign ν)
    (h : ms.Reached newJob limit s) : Everywhere ms.BeginsSafely s.log := by
  obtain ⟨a, ha, -⟩ := h.orderly
  have hsafe := begins_safely ha.scheduled
  intro pre e post hlog
  cases e with
  | begun n =>
    obtain ⟨hnew, hdeps, hfailed, hfault⟩ :=
      hsafe (pre.map CampaignEvent.label) (.begun n) (post.map CampaignEvent.label)
        (by simp [hlog, CampaignEvent.label])
    refine ⟨fun hn => hnew (begun_mem_map_label.2 hn), fun d hd => ?_,
      fun d hd => hfailed d (finished_mem_map_label.2 hd),
      fun hc => hfault (List.mem_map.2 ⟨_, hc, rfl⟩)⟩
    obtain ⟨hbegun, hend⟩ := hdeps d hd
    exact ⟨begun_mem_map_label.1 hbegun, finished_mem_map_label.1 hend⟩
  | finished n success => trivial
  | creationRaised n => trivial
  | pollRaised n => trivial
  | recursionRaised n => trivial
  | caught => trivial

/-- Module 0 depends on module 1. -/
def gatewayFirst : Modules ℕ Unit where
  modules := [⟨0, (), [1]⟩, ⟨1, (), []⟩]
  nodup := by decide
  closed := by decide

/-- A job that runs for a while and then reports success. -/
def successfulJob : Job := ⟨fun k => if k = 0 then .running else .stopped, true⟩

/-- Module 1 is begun first, although it comes second. -/
theorem scheduling_safe_gateway : ∃ s, gatewayFirst.Reached (fun _ _ _ => some successfulJob) 3 s ∧
    s.log = [.begun 1, .finished 1 true, .begun 0, .finished 0 true] ∧
    Everywhere gatewayFirst.BeginsSafely s.log := by
  obtain ⟨r, s, hrun, hlog⟩ := exists_outcome
    (gatewayFirst.whileLoop (fun _ _ _ => some successfulJob) 3 9) Campaign.initial
    (fun _ s => s.log = [.begun 1, .finished 1 true, .begun 0, .finished 0 true])
    (by decide +kernel)
  obtain ⟨-, -, tr, hpath⟩ := path_of_whileLoop hrun
  have hreached := reached_initial.path hpath
  exact ⟨s, hreached, hlog,
    scheduling_safe gatewayFirst (fun _ _ _ => some successfulJob) 3 s hreached⟩

end Modules

end EcuUpgrade
