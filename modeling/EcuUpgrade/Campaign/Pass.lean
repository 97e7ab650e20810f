import EcuUpgrade.Campaign.Outcome

/-!
# One pass over the modules

`upgrade_module` goes down the dependencies of a module and changes flags on its way. Whatever way
it takes, the modules it begins are those that waited when it was called and depend on no module
that was not done. A pass over all modules begins all of these. The recursion follows the modules
that wait for each other, so that it ends unless these lead into a cycle.

## Main definitions

* `Modules.StartsIn`: the modules that can be begun.
* `Modules.Passing`, `Modules.Passed`: what a call does to the state, and a pass over all modules.
* `Modules.WaitsFor`: the dependencies that the recursion follows.
* `Modules.RecursionEnds`: the recursion ends if it may go deep enough.

## Main results

* `Modules.upgradeModule_passing`: **what a call of `upgrade_module` does.**
* `Modules.pass_starts_ready`: **a pass begins exactly the modules that can be begun**, in whatever
  order it comes to them.
* `Modules.recursionEnds_iff`: **the recursion ends if and only if no cycle of waiting modules is
  reached.**
* `Modules.not_recursionEnds_eachOther`: it does not for two modules that depend on each other.
-/

namespace EcuUpgrade

open Programs Programs.Prog Runs Relation Schedules

variable {ν π : Type} [DecidableEq ν]

/-- The flags of a module. -/
def ModuleState.flags (st : ModuleState) : Bool × Bool × Bool :=
  (st.upgradeDone, st.inUpgrading, st.upgradeSuccess)

namespace Modules

variable (ms : Modules ν π) (newJob : NewJob ν π)

/-! ### What a call does -/

/-- Module `n` waits, and all modules it depends on are done. -/
structure StartsIn (s : Campaign ν) (n : ν) : Prop where
  mem : n ∈ ms.modules.map Module.name
  waiting : (s.modules n).Waiting
  done : ∀ d, ms.DependsOn n d → (s.modules d).upgradeDone = true

/-- Some modules that can be begun were begun, and no other was changed. -/
def Passing (s t : Campaign ν) : Prop := ∀ n, t.modules n = s.modules n ∨
  ms.StartsIn s n ∧
    ∃ job, t.modules n = { s.modules n with inUpgrading := true, upgradeJob := some job }

/-- Every module that can be begun was begun, and no other was changed. -/
structure Passed (s t : Campaign ν) : Prop where
  passing : ms.Passing s t
  begun : ∀ n, ms.StartsIn s n → (t.modules n).inUpgrading = true

/-- Module `n` depends on `d`, and neither was begun. -/
def WaitsFor (s : Campaign ν) (n d : ν) : Prop :=
  ms.DependsOn n d ∧ (s.modules n).Waiting ∧ (s.modules d).Waiting

variable {ms newJob} {s t u : Campaign ν} {n : ν} {m : Module ν π}

namespace Passing

omit [DecidableEq ν]

protected theorem refl (s : Campaign ν) : ms.Passing s s := fun _ => .inl rfl

theorem upgradeDone (h : ms.Passing s t) (n : ν) :
    (t.modules n).upgradeDone = (s.modules n).upgradeDone := by
  rcases h n with heq | ⟨-, job, heq⟩
  · rw [heq]
  · rw [heq]

theorem upgradeSuccess (h : ms.Passing s t) (n : ν) :
    (t.modules n).upgradeSuccess = (s.modules n).upgradeSuccess := by
  rcases h n with heq | ⟨-, job, heq⟩
  · rw [heq]
  · rw [heq]

/-- A module that still waits was not changed. -/
theorem eq_of_waiting (h : ms.Passing s t) (hn : (t.modules n).Waiting) :
    t.modules n = s.modules n := by
  rcases h n with heq | ⟨-, job, heq⟩
  · exact heq
  · rw [heq] at hn
    exact Bool.noConfusion hn.2

theorem waiting (h : ms.Passing s t) (hn : (t.modules n).Waiting) : (s.modules n).Waiting :=
  h.eq_of_waiting hn ▸ hn

/-- What can be begun later could be begun before. -/
theorem startsIn (h : ms.Passing s t) (hn : ms.StartsIn t n) : ms.StartsIn s n :=
  ⟨hn.mem, h.waiting hn.waiting, fun d hd => h.upgradeDone d ▸ hn.done d hd⟩

/-- What could be begun and no longer waits was begun. -/
theorem inUpgrading_of_not_waiting (h : ms.Passing s t) (hn : ms.StartsIn s n)
    (hbegun : ¬ (t.modules n).Waiting) : (t.modules n).inUpgrading = true := by
  rcases h n with heq | ⟨-, job, heq⟩
  · exact absurd (heq ▸ hn.waiting) hbegun
  · rw [heq]

/-- What waited and no longer waits could be begun. -/
theorem startsIn_of_begun (h : ms.Passing s t) (hn : (s.modules n).Waiting)
    (hbegun : ¬ (t.modules n).Waiting) : ms.StartsIn s n := by
  rcases h n with heq | ⟨hstarts, -⟩
  · exact absurd (heq ▸ hn) hbegun
  · exact hstarts

theorem inUpgrading (h : ms.Passing s t) (hn : (s.modules n).inUpgrading = true) :
    (t.modules n).inUpgrading = true := by
  rcases h n with heq | ⟨-, job, heq⟩
  · rw [heq, hn]
  · rw [heq]

protected theorem trans (h : ms.Passing s t) (h' : ms.Passing t u) : ms.Passing s u := by
  intro n
  rcases h' n with heq' | ⟨hstarts, job, heq'⟩
  · rw [heq']
    exact h n
  · rw [heq', h.eq_of_waiting hstarts.waiting]
    exact .inr ⟨h.startsIn hstarts, job, rfl⟩

end Passing

/-- Beginning a module that can be begun. -/
theorem passing_begun (h : ms.StartsIn s n) (job : Job) :
    ms.Passing s ((s.markBegun n).setJob n job) := by
  intro k
  by_cases hk : k = n
  · subst hk
    exact .inr ⟨h, job, by simp⟩
  · exact .inl (by simp [hk])

omit [DecidableEq ν] in
/-- What is waited for is a module. -/
theorem mem_of_transGen_waitsFor {d : ν} (h : TransGen (ms.WaitsFor s) n d) :
    d ∈ ms.modules.map Module.name := by
  obtain ⟨k, -, ⟨m, hm, -, hd, -⟩, -⟩ := TransGen.tail'_iff.1 h
  exact ms.closed m hm d hd

omit [DecidableEq ν] in
theorem finite_waitsFor (s : Campaign ν) (n : ν) : {d | TransGen (ms.WaitsFor s) n d}.Finite :=
  (List.finite_toSet (ms.modules.map Module.name)).subset fun _ => mem_of_transGen_waitsFor

/-- A module leads into no cycle if no module it still depends on does. -/
theorem not_loops_of_dependenModules (hm : m ∈ ms.modules)
    (h : ∀ d ∈ ms.dependenModules m, (u.modules d.name).upgradeDone = false →
      ¬ Loops (ms.WaitsFor u) d.name) : ¬ Loops (ms.WaitsFor u) m.name := by
  intro hloops
  obtain ⟨n, ⟨hdep, -, hn⟩, hnext⟩ := hloops.next
  obtain ⟨d, hd, rfl⟩ := List.mem_map.1 ((mem_map_dependenModules hm n).2 hdep)
  exact h d hd hn.1 hnext

/-- A module that still waits can be begun if all it depends on was done when the call began. -/
theorem Passing.startsIn_of_dependenModules (h : ms.Passing u s) (hm : m ∈ ms.modules)
    (hdone : ∀ d ∈ ms.dependenModules m, (u.modules d.name).upgradeDone = true)
    (hwait : (s.modules m.name).Waiting) : ms.StartsIn s m.name := by
  refine ⟨List.mem_map_of_mem hm, hwait, fun n hn => ?_⟩
  obtain ⟨d, hd, rfl⟩ := List.mem_map.1 ((mem_map_dependenModules hm n).2 hn)
  rw [h.upgradeDone, hdone d hd]

/-- The body of `upgrade_module`. A call of itself for a module that leads into a cycle must not
return. -/
theorem upgradeModuleBody_passing {visit : Module ν π → Prog (Campaign ν) CampaignExc Unit}
    {E : CampaignExc → Prop} (hm : m ∈ ms.modules)
    (hcreation : (∃ log n config, newJob log n config = none) → E .jobCreation)
    (hvisit : ∀ d ∈ ms.modules, ms.DependsOn m.name d.name →
      (u.modules d.name).upgradeDone = false → (u.modules m.name).Waiting →
      Triple (ms.Passing u) (visit d)
        (fun _ t => ms.Passing u t ∧ ¬ Loops (ms.WaitsFor u) d.name) (fun e _ => E e)) :
    Triple (ms.Passing u) (ms.upgradeModuleBody newJob visit m)
      (fun _ t => ms.Passing u t ∧
        (ms.StartsIn u m.name → (t.modules m.name).inUpgrading = true) ∧
        ¬ Loops (ms.WaitsFor u) m.name)
      (fun e _ => E e) := by
  have hdeps := mem_map_dependenModules hm
  refine .read fun s hs => ?_
  split
  · next hbegun =>
    have hbegun : ¬ (s.modules m.name).Waiting := by
      rintro ⟨hdone, hup⟩
      simp [hdone, hup] at hbegun
    refine .pure _ fun t ht => ht ▸ ⟨hs, fun h => hs.inUpgrading_of_not_waiting h hbegun, ?_⟩
    intro hloops
    obtain ⟨d, ⟨hdep, hwait, hd⟩, -⟩ := hloops.next
    exact absurd hd.1 (by simp [(hs.startsIn_of_begun hwait hbegun).done d hdep])
  · next hnew =>
    have hwait : (u.modules m.name).Waiting :=
      hs.waiting (by simpa [ModuleState.Waiting] using hnew)
    have hloop := visitDependens_triple (fun _ h => h.upgradeDone) (ms.dependenModules m) true
      fun d hd hundone =>
        have hdep : ms.DependsOn m.name d.name := (hdeps _).1 (List.mem_map_of_mem hd)
        hvisit d (mem_of_mem_dependenModules hd) hdep hundone hwait
    refine (hloop.at hs).bind fun b => ?_
    cases b with
    | false =>
      refine .pure _ fun t ht => ⟨ht.1, fun hstarts => ?_, not_loops_of_dependenModules hm ht.2.2⟩
      refine absurd (ht.2.1.2 ⟨rfl, fun d hd => ?_⟩) Bool.false_ne_true
      exact hstarts.done _ ((hdeps _).1 (List.mem_map_of_mem hd))
    | true =>
      refine Module.upgrade_triple ?_ ?_ ?_
      · rintro s ⟨hs, -, hcalls⟩ hbegun
        exact ⟨hs, fun h => hs.inUpgrading_of_not_waiting h hbegun,
          not_loops_of_dependenModules hm hcalls⟩
      · intro s _ _ hjob
        exact hcreation ⟨_, _, _, hjob⟩
      · rintro s job ⟨hs, hb, hcalls⟩ hwait -
        have hstarts := hs.startsIn_of_dependenModules hm (hb.1 rfl).2 hwait
        have hbegun := passing_begun hstarts job
        exact ⟨hs.trans hbegun, fun _ => by simp, not_loops_of_dependenModules hm hcalls⟩

/-- A call for a module that was begun does nothing. -/
theorem upgradeModule_of_begun (limit : ℕ) (h : ¬ (s.modules m.name).Waiting) :
    ms.upgradeModule newJob limit m s = some (.ok (), s) := by
  have hbody : ∀ visit : Module ν π → Prog (Campaign ν) CampaignExc Unit,
      ms.upgradeModuleBody newJob visit m s = some (.ok (), s) := by
    intro visit
    unfold upgradeModuleBody
    rw [bind_of_ok (get_apply s), if_pos]
    · rfl
    · by_contra hnew
      exact h (by simpa [ModuleState.Waiting] using hnew)
  cases limit with
  | zero => exact hbody _
  | succ limit => exact hbody _

variable (newJob) in
/-- **A call of `upgrade_module`** begins only modules that can be begun, and the module it is for
if that can be. It returns only if the modules it waits for lead into no cycle; it raises if they
do, if the limit is not above their number, or if a job could not be created. -/
theorem upgradeModule_passing (limit : ℕ) (hm : m ∈ ms.modules) :
    Triple (ms.Passing u) (ms.upgradeModule newJob limit m)
      (fun _ t => ms.Passing u t ∧
        (ms.StartsIn u m.name → (t.modules m.name).inUpgrading = true) ∧
        ¬ Loops (ms.WaitsFor u) m.name)
      (fun e _ => e = .recursionError ∧
          (Loops (ms.WaitsFor u) m.name ∨ limit ≤ depth (ms.WaitsFor u) m.name) ∨
        e = .jobCreation ∧ ∃ log n config, newJob log n config = none) := by
  induction limit generalizing m with
  | zero =>
    refine upgradeModuleBody_passing hm (fun h => .inr ⟨rfl, h⟩) ?_
    rintro d - - - - s hs r t ⟨⟩
    exact .inl ⟨rfl, .inr (Nat.zero_le _)⟩
  | succ limit ih =>
    refine upgradeModuleBody_passing hm (fun h => .inr ⟨rfl, h⟩) ?_
    intro d hd hdep hundone hwait
    by_cases hdwait : (u.modules d.name).Waiting
    · have hstep : ms.WaitsFor u m.name d.name := ⟨hdep, hwait, hdwait⟩
      refine (ih hd).mono (fun _ h => h) (fun _ t h => ⟨h.1, h.2.2⟩)
        (fun e _ h => h.imp_left fun ⟨he, hdeep⟩ => ⟨he, ?_⟩)
      by_cases hloops : Loops (ms.WaitsFor u) d.name
      · exact .inl (.cons hstep hloops)
      · have hlt := depth_lt (finite_waitsFor u m.name) hstep fun h => hloops ⟨_, .refl, h⟩
        have hle := hdeep.resolve_left hloops
        exact .inr (by omega)
    · -- the call does nothing for a module that was begun before
      intro s hs r t h
      rw [upgradeModule_of_begun limit fun h => hdwait (hs.waiting h)] at h
      obtain ⟨rfl, rfl⟩ : .ok () = r ∧ s = t := by simpa using h
      refine ⟨hs, fun hloops => ?_⟩
      obtain ⟨k, hk, -⟩ := hloops.next
      exact hdwait hk.2.1

/-! ### A pass over all modules -/

variable (ms) in
/-- The two have the same modules with the same dependencies, in any order. -/
def SameGraph (ms' : Modules ν π) : Prop :=
  (∀ n, n ∈ ms'.modules.map Module.name ↔ n ∈ ms.modules.map Module.name) ∧
    ∀ n d, ms'.DependsOn n d ↔ ms.DependsOn n d

omit [DecidableEq ν] in
theorem SameGraph.startsIn_iff {ms' : Modules ν π} (h : ms.SameGraph ms') :
    ms'.StartsIn s n ↔ ms.StartsIn s n := by
  constructor
  · intro hn
    exact ⟨(h.1 n).1 hn.mem, hn.waiting, fun d hd => hn.done d ((h.2 n d).2 hd)⟩
  · intro hn
    exact ⟨(h.1 n).2 hn.mem, hn.waiting, fun d hd => hn.done d ((h.2 n d).1 hd)⟩

namespace Passed

omit [DecidableEq ν]

variable (h : ms.Passed s t)

include h

theorem inUpgrading_iff (hm : m ∈ ms.modules) : (t.modules m.name).inUpgrading = true ↔
    (s.modules m.name).inUpgrading = true ∨ (s.modules m.name).upgradeDone = false ∧
      ∀ d, ms.DependsOn m.name d → (s.modules d).upgradeDone = true := by
  constructor
  · intro hup
    rcases h.passing m.name with heq | ⟨hstarts, -⟩
    · exact .inl (heq ▸ hup)
    · exact .inr ⟨hstarts.waiting.1, hstarts.done⟩
  · intro hcases
    cases hup : (s.modules m.name).inUpgrading with
    | true => exact h.passing.inUpgrading hup
    | false =>
      obtain ⟨hdone, hdeps⟩ := hcases.resolve_left (by simp [hup])
      exact h.begun _ ⟨List.mem_map_of_mem hm, ⟨hdone, hup⟩, hdeps⟩

/-- Passes over the same modules in any orders end alike. -/
theorem flags_eq {ms' : Modules ν π} {t' : Campaign ν} (hgraph : ms.SameGraph ms')
    (h' : ms'.Passed s t') (n : ν) : (t'.modules n).flags = (t.modules n).flags := by
  have hup : (t'.modules n).inUpgrading = (t.modules n).inUpgrading := by
    by_cases hn : ms.StartsIn s n
    · rw [h.begun n hn, h'.begun n (hgraph.startsIn_iff.2 hn)]
    · rw [(h.passing n).resolve_right fun hs => hn hs.1,
        (h'.passing n).resolve_right fun hs => hn (hgraph.startsIn_iff.1 hs.1)]
  unfold ModuleState.flags
  rw [hup, h.passing.upgradeDone, h'.passing.upgradeDone, h.passing.upgradeSuccess,
    h'.passing.upgradeSuccess]

/-- Without a cycle, some module is in upgrading unless all are done. -/
theorem exists_inUpgrading (hacyclic : ∀ n, ¬ TransGen ms.DependsOn n n)
    (hundone : ∃ m ∈ ms.modules, (s.modules m.name).upgradeDone = false) :
    ∃ m ∈ ms.modules, (t.modules m.name).inUpgrading = true := by
  obtain ⟨m, hm, hd⟩ := hundone
  obtain ⟨n, hn, hfirst, hdeps⟩ := exists_first hacyclic
    (fun n => (s.modules n).upgradeDone = false) (ms.modules.map Module.name)
    ⟨m.name, List.mem_map_of_mem hm, hd⟩
  obtain ⟨m', hm', rfl⟩ := List.mem_map.1 hn
  refine ⟨m', hm', (h.inUpgrading_iff hm').2 (.inr ⟨hfirst, fun d hd => ?_⟩)⟩
  have hmem : d ∈ ms.modules.map Module.name := by
    obtain ⟨k, hk, -, hmem, -⟩ := hd
    exact ms.closed k hk d hmem
  simpa using hdeps d hmem hd

end Passed

variable (newJob s) in
/-- A pass over all modules, in any order. -/
theorem pass_triple (hacyclic : ∀ n, ¬ TransGen ms.DependsOn n n) (limit : ℕ)
    (l : List (Module ν π)) (hl : ∀ m, m ∈ l ↔ m ∈ ms.modules) :
    Triple (· = s) (forM l (ms.upgradeModule newJob limit)) (fun _ t => ms.Passed s t)
      (fun e _ => e = .recursionError ∧ limit < ms.modules.length ∨
        e = .jobCreation ∧ ∃ log n config, newJob log n config = none) := by
  have hloops : ∀ t n, ¬ Loops (ms.WaitsFor t) n := by
    rintro t n ⟨k, -, hk⟩
    exact hacyclic k (hk.lift id fun _ _ h => h.1)
  have hdepth : ∀ t, ∀ m ∈ ms.modules, depth (ms.WaitsFor t) m.name < ms.modules.length := by
    intro t m hm
    have hlt := depth_lt_length (R := ms.WaitsFor t) (fun _ => mem_of_transGen_waitsFor)
      (List.mem_map_of_mem (f := Module.name) hm) fun h => hloops t _ ⟨_, .refl, h⟩
    rwa [List.length_map] at hlt
  -- the modules that were called for were begun, if they can be
  refine (Triple.forM (I := fun done t => ms.Passing s t ∧
    ∀ m ∈ done, ms.StartsIn s m.name → (t.modules m.name).inUpgrading = true) l ?_).mono
      ?_ ?_ (fun _ _ h => h)
  · rintro done m rest hrest t ⟨ht, hdone⟩
    have hm : m ∈ ms.modules := (hl m).1 (by simp [hrest])
    refine (upgradeModule_passing newJob limit hm).mono (fun _ h => h) ?_ ?_ t (.refl t)
    · rintro - v ⟨hv, hup, -⟩
      refine ⟨ht.trans hv, fun k hk hstarts => ?_⟩
      rcases List.mem_append.1 hk with hk | hk
      · exact hv.inUpgrading (hdone k hk hstarts)
      · obtain rfl := List.mem_singleton.1 hk
        by_cases hwait : (t.modules k.name).Waiting
        · exact hup ⟨hstarts.mem, hwait, fun d hd => ht.upgradeDone d ▸ hstarts.done d hd⟩
        · exact hv.inUpgrading (ht.inUpgrading_of_not_waiting hstarts hwait)
    · intro e _ h
      refine h.imp_left fun ⟨he, hdeep⟩ => ⟨he, ?_⟩
      exact (hdeep.resolve_left (hloops t _)).trans_lt (hdepth t m hm)
  · rintro t rfl
    exact ⟨.refl t, by simp⟩
  · rintro - t ⟨ht, hall⟩
    refine ⟨ht, fun n hn => ?_⟩
    obtain ⟨m, hm, rfl⟩ := List.mem_map.1 hn.mem
    exact hall m ((hl m).2 hm) hn

/-- **A pass begins exactly the modules that can be begun.** For every configuration without a
cycle and every state, if no constructor of a job raises, the calls for all modules in any order
return. Then a module is in upgrading if and only if it was before, or it was not done and all it
depends on is done; nothing else changed. The order of the modules and of their dependencies makes
no difference, and unless all modules are done, some module is in upgrading. -/
theorem pass_starts_ready (ms : Modules ν π) (newJob : NewJob ν π) (limit : ℕ) (s : Campaign ν)
    (l : List (Module ν π)) (hacyclic : ∀ n, ¬ TransGen ms.DependsOn n n)
    (hnew : ∀ log n config, newJob log n config ≠ none) (hlimit : ms.modules.length ≤ limit)
    (hl : ∀ m, m ∈ l ↔ m ∈ ms.modules) :
    ∃ t, forM l (ms.upgradeModule newJob limit) s = some (.ok (), t) ∧
      (∀ m ∈ ms.modules, (t.modules m.name).inUpgrading = true ↔
        (s.modules m.name).inUpgrading = true ∨ (s.modules m.name).upgradeDone = false ∧
          ∀ d, ms.DependsOn m.name d → (s.modules d).upgradeDone = true) ∧
      (∀ n, (t.modules n).upgradeDone = (s.modules n).upgradeDone ∧
        (t.modules n).upgradeSuccess = (s.modules n).upgradeSuccess) ∧
      (∀ (ms' : Modules ν π) (newJob' : NewJob ν π) (limit' : ℕ) (l' : List (Module ν π))
          (t' : Campaign ν), ms.SameGraph ms' → (∀ m, m ∈ l' ↔ m ∈ ms'.modules) →
        forM l' (ms'.upgradeModule newJob' limit') s = some (.ok (), t') →
          ∀ n, (t'.modules n).flags = (t.modules n).flags) ∧
      ((∃ m ∈ ms.modules, (s.modules m.name).upgradeDone = false) →
        ∃ m ∈ ms.modules, (t.modules m.name).inUpgrading = true) := by
  have htotal : Total (forM l (ms.upgradeModule newJob limit)) :=
    .forM (upgradeModule_total limit) l
  obtain ⟨r, t, hrun⟩ := htotal s
  have hpass := pass_triple newJob s hacyclic limit l hl
  cases r with
  | error e =>
    rcases hpass.error rfl hrun with ⟨-, hlt⟩ | ⟨-, log, n, config, hnone⟩
    · exact absurd hlimit (by omega)
    · exact absurd hnone (hnew log n config)
  | ok a =>
    have ht := hpass.ok rfl hrun
    refine ⟨t, hrun, fun m hm => ht.inUpgrading_iff hm,
      fun n => ⟨ht.passing.upgradeDone n, ht.passing.upgradeSuccess n⟩, ?_,
      ht.exists_inUpgrading hacyclic⟩
    intro ms' newJob' limit' l' t' hgraph hl' hrun'
    have hacyclic' : ∀ n, ¬ TransGen ms'.DependsOn n n :=
      fun n h => hacyclic n (h.lift id fun i j => (hgraph.2 i j).1)
    have ht' := (pass_triple newJob' s hacyclic' limit' l' hl').ok rfl hrun'
    exact ht.flags_eq hgraph ht'

theorem pass_starts_ready_gateway :
    ∃ t, forM gatewayFirst.modules
        (gatewayFirst.upgradeModule (fun _ _ _ => some successfulJob) 2) Campaign.initial =
          some (.ok (), t) ∧
      (t.modules 1).inUpgrading = true ∧ (t.modules 0).inUpgrading = false := by
  obtain ⟨t, hrun, hup, -⟩ := pass_starts_ready gatewayFirst (fun _ _ _ => some successfulJob) 2
    Campaign.initial gatewayFirst.modules gatewayFirst_acyclic (fun _ _ _ => by simp) le_rfl
    fun _ => Iff.rfl
  refine ⟨t, hrun, (hup ⟨1, (), []⟩ (by decide)).2 (.inr ⟨rfl, ?_⟩), ?_⟩
  · rintro d ⟨m, hm, hname, hd, -⟩
    obtain rfl : m = ⟨1, (), []⟩ := eq_of_name_eq hm (by decide) hname
    cases hd
  · rw [← Bool.not_eq_true, hup ⟨0, (), [1]⟩ (by decide)]
    rintro (h | ⟨-, hdeps⟩)
    · cases h
    · cases hdeps 1 ⟨⟨0, (), [1]⟩, by decide, rfl, by decide, by decide⟩

/-! ### Recursions that end -/

omit [DecidableEq ν] in
theorem visitDependens_extends {visit visit' : Module ν π → Prog (Campaign ν) CampaignExc Unit}
    {e : CampaignExc} (h : ∀ d, Extends e (visit d) (visit' d)) (dependens : List (Module ν π))
    (b : Bool) :
    Extends e (visitDependens visit dependens b) (visitDependens visit' dependens b) := by
  induction dependens generalizing b with
  | nil => exact .refl _ _
  | cons d dependens ih =>
    exact Extends.bind (.refl _ _) fun s => .ite (Extends.bind (h d) fun _ => ih false) (ih b)

theorem upgradeModuleBody_extends {e : CampaignExc}
    {visit visit' : Module ν π → Prog (Campaign ν) CampaignExc Unit}
    (h : ∀ d, Extends e (visit d) (visit' d)) (m : Module ν π) :
    Extends e (ms.upgradeModuleBody newJob visit m) (ms.upgradeModuleBody newJob visit' m) := by
  refine Extends.bind (.refl _ _) fun s => .ite (.refl _ _) ?_
  exact Extends.bind (visitDependens_extends h _ _) fun b => .refl _ _

/-- A higher limit makes no difference to a call that stays within the limit. -/
theorem upgradeModule_extends (limit : ℕ) (m : Module ν π) :
    Extends .recursionError (ms.upgradeModule newJob limit m)
      (ms.upgradeModule newJob (limit + 1) m) := by
  induction limit generalizing m with
  | zero =>
    refine upgradeModuleBody_extends (fun d => ?_) m
    rintro s r t hr ⟨⟩
    exact absurd rfl hr
  | succ limit ih => exact upgradeModuleBody_extends ih m

variable (ms newJob) in
/-- The recursion ends: above some limit, the call has an outcome that does not depend on it. -/
def RecursionEnds (s : Campaign ν) (m : Module ν π) : Prop :=
  ∃ bound r t, r ≠ .error .recursionError ∧
    ∀ limit, bound ≤ limit → ms.upgradeModule newJob limit m s = some (r, t)

theorem recursionEnds_of_outcome {limit : ℕ} {r : Except CampaignExc Unit}
    (hr : r ≠ .error .recursionError) (h : ms.upgradeModule newJob limit m s = some (r, t)) :
    ms.RecursionEnds newJob s m := by
  refine ⟨limit, r, t, hr, fun limit' hle => ?_⟩
  induction limit', hle using Nat.le_induction with
  | base => exact h
  | succ limit' _ ih => exact upgradeModule_extends limit' m s r t hr ih

/-- The recursion ends if the modules that wait lead into no cycle. -/
theorem recursionEnds_of_not_loops (hm : m ∈ ms.modules)
    (hloops : ¬ Loops (ms.WaitsFor s) m.name) : ms.RecursionEnds newJob s m := by
  have htotal : Total (ms.upgradeModule newJob (depth (ms.WaitsFor s) m.name + 1) m) :=
    upgradeModule_total _ m
  obtain ⟨r, t, hrun⟩ := htotal s
  refine recursionEnds_of_outcome (fun hr => ?_) hrun
  subst hr
  rcases (upgradeModule_passing newJob _ hm).error (.refl s) hrun with ⟨-, hbad | hle⟩ | ⟨he, -⟩
  · exact hloops hbad
  · omega
  · cases he

/-- It does not if they lead into one, and all jobs can be created. -/
theorem not_recursionEnds_of_loops (hm : m ∈ ms.modules)
    (hnew : ∀ log n config, newJob log n config ≠ none) (hloops : Loops (ms.WaitsFor s) m.name) :
    ¬ ms.RecursionEnds newJob s m := by
  rintro ⟨bound, r, t, hr, hrun⟩
  have hpass : Triple (ms.Passing s) _ _ _ := upgradeModule_passing newJob bound hm
  cases r with
  | ok a => exact (hpass.ok (.refl s) (hrun bound le_rfl)).2.2 hloops
  | error e =>
    rcases hpass.error (.refl s) (hrun bound le_rfl) with ⟨rfl, -⟩ | ⟨-, log, n, config, hnone⟩
    · exact hr rfl
    · exact hnew log n config hnone

/-- **When the recursion ends.** For every configuration, every state and every module, the
recursion of `upgrade_module` ends for all jobs if and only if no module from which one comes back
to it is reached, along dependencies between modules that are neither done nor in upgrading. -/
theorem recursionEnds_iff (ms : Modules ν π) (s : Campaign ν) (m : Module ν π)
    (hm : m ∈ ms.modules) : (∀ newJob, ms.RecursionEnds newJob s m) ↔
      ¬ ∃ n, ReflTransGen (ms.WaitsFor s) m.name n ∧ TransGen (ms.WaitsFor s) n n := by
  constructor
  · intro h hloops
    have hends := h fun _ _ _ => some successfulJob
    exact not_recursionEnds_of_loops hm (fun _ _ _ => by simp) hloops hends
  · exact fun hloops newJob => recursionEnds_of_not_loops hm hloops

/-- Two modules that depend on each other. -/
def eachOther : Modules ℕ Unit where
  modules := [⟨0, (), [1]⟩, ⟨1, (), [0]⟩]
  nodup := by decide
  closed := by decide

theorem eachOther_loops : Loops (eachOther.WaitsFor Campaign.initial) 0 := by
  have hwait : ∀ n, ((Campaign.initial (ν := ℕ)).modules n).Waiting := fun n => ⟨rfl, rfl⟩
  have h₀₁ : eachOther.WaitsFor Campaign.initial 0 1 :=
    ⟨⟨⟨0, (), [1]⟩, by decide, rfl, by decide, by decide⟩, hwait 0, hwait 1⟩
  have h₁₀ : eachOther.WaitsFor Campaign.initial 1 0 :=
    ⟨⟨⟨1, (), [0]⟩, by decide, rfl, by decide, by decide⟩, hwait 1, hwait 0⟩
  exact ⟨0, .refl, .head h₀₁ (.single h₁₀)⟩

/-- The constructor accepts two modules that depend on each other, and the recursion does not end
when neither was begun. -/
theorem not_recursionEnds_eachOther : ∃ (config : List (ModuleJson ℕ Unit)) (ms : Modules ℕ Unit)
    (newJob : NewJob ℕ Unit) (m : Module ℕ Unit), Modules.init config = .ok ms ∧ m ∈ ms.modules ∧
      (∀ n, ((Campaign.initial (ν := ℕ)).modules n).upgradeDone = false) ∧
      (∃ n, TransGen ms.DependsOn n n) ∧ ¬ ms.RecursionEnds newJob Campaign.initial m := by
  refine ⟨[⟨0, (), some [1]⟩, ⟨1, (), some [0]⟩], eachOther, fun _ _ _ => some successfulJob,
    ⟨0, (), [1]⟩, rfl, by decide, fun _ => rfl, ?_, ?_⟩
  · obtain ⟨n, -, hn⟩ := eachOther_loops
    exact ⟨n, hn.lift id fun _ _ h => h.1⟩
  · exact not_recursionEnds_of_loops (by decide) (fun _ _ _ => by simp) eachOther_loops

theorem recursionEnds_iff_eachOther :
    (∀ newJob, eachOther.RecursionEnds newJob Campaign.initial ⟨0, (), [1]⟩) ↔
      ¬ ∃ n, ReflTransGen (eachOther.WaitsFor Campaign.initial) 0 n ∧
        TransGen (eachOther.WaitsFor Campaign.initial) n n :=
  recursionEnds_iff eachOther Campaign.initial ⟨0, (), [1]⟩ (by decide)

end Modules

end EcuUpgrade
