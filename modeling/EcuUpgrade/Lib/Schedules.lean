import EcuUpgrade.Lib.Runs
import Mathlib.Data.Fintype.Card
import Mathlib.Data.Set.Card
import Mathlib.Data.Set.Finite.Basic
import Mathlib.Logic.Function.Basic
import Mathlib.Logic.Relation
import Mathlib.Order.WellFounded

/-!
# Schedules of tasks with dependencies

Tasks are begun and finish, with success or without. A task may be begun when it waits, everything
it depends on has finished with success, and nothing went wrong so far: a task that finishes
without success, or a fault, halts the schedule, and what runs then may only finish. The
dependency relation is arbitrary.

## Main definitions

* `Label`, `State`, `step`: the transition system; its history is the list of its labels.
* `Begins`: what a schedule promises of the history before a task is begun.
* `depth`, `Loops`: how far the dependencies of a task go down, and that they lead into a cycle.

## Main results

* `begun_mem_iff`, `finished_mem_iff`, `halted_iff`: the state says what the history says.
* `begins_safely`: **a task is begun at most once, after everything it depends on, directly or
  not, has finished with success, and never after something went wrong.**
* `exists_first`: without a cycle, some task that is left waits for nothing that is left.
* `depth_lt`, `Loops.next`: from a task, the number of tasks below falls at every step, or some
  steps lead into a cycle, and can be followed forever.
-/

namespace Schedules

open Runs

variable {ι : Type*}

/-- What happens in a schedule. -/
inductive Label (ι : Type*)
  | begun (i : ι)
  | finished (i : ι) (success : Bool)
  | fault

/-- What a task does. -/
inductive Status
  | waiting
  | running
  | ended (success : Bool)
  deriving DecidableEq

structure State (ι : Type*) where
  status : ι → Status
  halted : Bool

/-- Every task waits. -/
def State.initial : State ι := ⟨fun _ => .waiting, false⟩

variable [DecidableEq ι]

/-- The effect of a label. -/
def State.after (s : State ι) : Label ι → State ι
  | .begun i => { s with status := Function.update s.status i .running }
  | .finished i success =>
    ⟨Function.update s.status i (.ended success), s.halted || !success⟩
  | .fault => { s with halted := true }

/-- A label may happen. `R i j` says that `i` depends on `j`. -/
def Enabled (R : ι → ι → Prop) (s : State ι) : Label ι → Prop
  | .begun i => s.status i = .waiting ∧ s.halted = false ∧ ∀ j, R i j → s.status j = .ended true
  | .finished i _ => s.status i = .running
  | .fault => True

/-- The transition relation. -/
def step (R : ι → ι → Prop) (s : State ι) (l : Label ι) (t : State ι) : Prop :=
  Enabled R s l ∧ t = s.after l

/-- The runs of a schedule. -/
abbrev Scheduled (R : ι → ι → Prop) : List (Label ι) → State ι → Prop :=
  Run (· = State.initial) (step R)

variable {R : ι → ι → Prop} {tr : List (Label ι)} {s : State ι}

theorem Scheduled.snoc {l : Label ι} (h : Scheduled R tr s) (hl : Enabled R s l) :
    Scheduled R (tr ++ [l]) (s.after l) :=
  Run.snoc h ⟨hl, rfl⟩

/-! ### What the state says about the history -/

/-- A task has been begun if and only if it no longer waits. -/
theorem begun_mem_iff (h : Scheduled R tr s) (i : ι) :
    .begun i ∈ tr ↔ s.status i ≠ .waiting := by
  revert i
  refine Run.invariant (P := fun tr s => ∀ i, .begun i ∈ tr ↔ s.status i ≠ .waiting) ?_ ?_ h
  · rintro s rfl i
    simp [State.initial]
  · rintro tr s l t - ih ⟨hen, rfl⟩ i
    rw [List.mem_append, ih i]
    cases l with
    | begun j =>
      by_cases hij : i = j
      · simp [State.after, hij]
      · simp [State.after, hij]
    | finished j success =>
      have hrun : s.status j = .running := hen
      by_cases hij : i = j
      · simp [State.after, hij, hrun]
      · simp [State.after, hij]
    | fault => simp [State.after]

/-- A task has finished with `success` if and only if it ended so. -/
theorem finished_mem_iff (h : Scheduled R tr s) (i : ι) (success : Bool) :
    .finished i success ∈ tr ↔ s.status i = .ended success := by
  revert i success
  refine Run.invariant
    (P := fun tr s => ∀ i b, .finished i b ∈ tr ↔ s.status i = .ended b) ?_ ?_ h
  · rintro s rfl i b
    simp [State.initial]
  · rintro tr s l t - ih ⟨hen, rfl⟩ i b
    rw [List.mem_append, ih i]
    cases l with
    | begun j =>
      have hwait : s.status j = .waiting := hen.1
      by_cases hij : i = j
      · simp [State.after, hij, hwait]
      · simp [State.after, hij]
    | finished j success =>
      have hrun : s.status j = .running := hen
      by_cases hij : i = j
      · simp [State.after, hij, hrun, eq_comm]
      · simp [State.after, hij]
    | fault => simp [State.after]

/-- The schedule is halted if and only if something went wrong. -/
theorem halted_iff (h : Scheduled R tr s) :
    s.halted = true ↔ .fault ∈ tr ∨ ∃ i, .finished i false ∈ tr := by
  refine Run.invariant (P := fun tr s =>
    s.halted = true ↔ .fault ∈ tr ∨ ∃ i, .finished i false ∈ tr) ?_ ?_ h
  · rintro s rfl
    simp [State.initial]
  · rintro tr s l t - ih ⟨-, rfl⟩
    cases l with
    | begun j => simp [State.after, ih]
    | finished j success =>
      cases success with
      | true => simp [State.after, ih]
      | false => simp [State.after]
    | fault => simp [State.after]

/-- A task that finished was begun. -/
theorem begun_mem_of_finished_mem (h : Scheduled R tr s) {i : ι} {success : Bool}
    (hi : .finished i success ∈ tr) : .begun i ∈ tr := by
  rw [begun_mem_iff h, (finished_mem_iff h i success).1 hi]
  simp

/-! ### Safety -/

/-- What a schedule promises before a task is begun: it was not begun before, everything it depends
on by `D` was begun and has finished with success, and nothing went wrong. -/
def Begins (D : ι → ι → Prop) (pre : List (Label ι)) : Label ι → Prop
  | .begun i => .begun i ∉ pre ∧ (∀ j, D i j → .begun j ∈ pre ∧ .finished j true ∈ pre) ∧
      (∀ j, .finished j false ∉ pre) ∧ .fault ∉ pre
  | _ => True

/-- The promise holds for what a task depends on directly. -/
theorem begins_of_step (h : Scheduled R tr s) {l : Label ι} {t : State ι} (hs : step R s l t) :
    Begins R tr l := by
  cases l with
  | begun i =>
    obtain ⟨⟨hwait, hgoing, hdeps⟩, -⟩ := hs
    have hright : ¬ (.fault ∈ tr ∨ ∃ j, .finished j false ∈ tr) := by
      rw [← halted_iff h, hgoing]
      decide
    refine ⟨?_, fun j hj => ?_, fun j hj => hright (.inr ⟨j, hj⟩), fun hf => hright (.inl hf)⟩
    · rw [begun_mem_iff h]
      exact fun hne => hne hwait
    · have hend : .finished j true ∈ tr := (finished_mem_iff h j true).2 (hdeps j hj)
      exact ⟨begun_mem_of_finished_mem h hend, hend⟩
  | finished i success => trivial
  | fault => trivial

omit [DecidableEq ι] in
/-- A history in which tasks are begun after what they depend on directly begins them after what
they depend on at all. -/
theorem everywhere_begins_transGen (h : Everywhere (Begins R) tr) :
    Everywhere (Begins (Relation.TransGen R)) tr := by
  intro pre l post htr
  cases l with
  | begun i =>
    obtain ⟨hnew, -, hright⟩ := h pre _ post htr
    refine ⟨hnew, fun j hj => ?_, hright⟩
    -- what `i` depends on first was begun earlier, where the same argument applies
    induction hj using Relation.TransGen.head_induction_on generalizing pre post with
    | single hij => exact (h pre _ post htr).2.1 j hij
    | @head i k hik _ ih =>
      obtain ⟨pre', post', rfl⟩ := List.append_of_mem ((h pre _ post htr).2.1 k hik).1
      have hk : tr = pre' ++ .begun k :: (post' ++ .begun i :: post) := by
        rw [htr, List.append_assoc, List.cons_append]
      obtain ⟨hnew', -, hright'⟩ := h pre' _ _ hk
      obtain ⟨hbegun, hend⟩ := ih pre' _ hk hnew' hright'
      exact ⟨List.mem_append_left _ hbegun, List.mem_append_left _ hend⟩
  | finished i success => trivial
  | fault => trivial

/-- **Safety of schedules.** -/
theorem begins_safely (h : Scheduled R tr s) :
    Everywhere (Begins (Relation.TransGen R)) tr :=
  everywhere_begins_transGen (Run.everywhere (fun _ _ _ _ hr hs => begins_of_step hr hs) h)

/-! ### Progress -/

omit [DecidableEq ι] in
/-- Among finitely many tasks without a cycle, one of those with `p` depends on no other with
`p`. -/
theorem exists_first (hacyclic : ∀ i, ¬ Relation.TransGen R i i) (p : ι → Prop) (tasks : List ι)
    (h : ∃ i ∈ tasks, p i) : ∃ i ∈ tasks, p i ∧ ∀ j ∈ tasks, R i j → ¬ p j := by
  have : Finite {i // i ∈ tasks} := (List.finite_toSet tasks).to_subtype
  let before (j i : {i // i ∈ tasks}) : Prop := Relation.TransGen R i.1 j.1
  have : IsTrans _ before := ⟨fun _ _ _ hij hjk => hjk.trans hij⟩
  have : Std.Irrefl before := ⟨fun i hi => hacyclic i.1 hi⟩
  have hwf : WellFounded before := Finite.wellFounded_of_trans_of_irrefl before
  obtain ⟨i, hi, hp⟩ := h
  obtain ⟨⟨k, hk⟩, hpk, hmin⟩ := hwf.has_min {i | p i.1} ⟨⟨i, hi⟩, hp⟩
  exact ⟨k, hk, hpk, fun j hj hkj hpj => hmin ⟨j, hj⟩ hpj (.single hkj)⟩

/-! ### Following dependencies -/

section Following

omit [DecidableEq ι]

variable {i j : ι}

variable (R) in
/-- How many tasks `i` depends on, directly or not. -/
noncomputable def depth (i : ι) : ℕ := {j | Relation.TransGen R i j}.ncard

/-- The depth falls at a step that does not come back. -/
theorem depth_lt (hfinite : {k | Relation.TransGen R i k}.Finite) (h : R i j)
    (hj : ¬ Relation.TransGen R j j) : depth R j < depth R i := by
  refine Set.ncard_lt_ncard ⟨fun k hk => .head h hk, fun hsub => ?_⟩ hfinite
  exact hj (hsub (.single h))

/-- A task that is not in a cycle does not reach all tasks. -/
theorem depth_lt_length {tasks : List ι} (hmem : ∀ j, Relation.TransGen R i j → j ∈ tasks)
    (hi : i ∈ tasks) (hcycle : ¬ Relation.TransGen R i i) : depth R i < tasks.length := by
  classical
  have hlt : depth R i < (tasks.toFinset : Set ι).ncard := by
    refine Set.ncard_lt_ncard ⟨fun j hj => ?_, fun hsub => ?_⟩ (Finset.finite_toSet _)
    · simpa using hmem j hj
    · exact hcycle (hsub (by simpa using hi))
  rw [Set.ncard_coe_finset] at hlt
  exact hlt.trans_le tasks.toFinset_card_le

variable (R) in
/-- The dependencies of `i` lead into a cycle. -/
def Loops (i : ι) : Prop := ∃ k, Relation.ReflTransGen R i k ∧ Relation.TransGen R k k

theorem Loops.cons (h : R i j) (hj : Loops R j) : Loops R i := by
  obtain ⟨k, hk, hcycle⟩ := hj
  exact ⟨k, .head h hk, hcycle⟩

/-- Dependencies that lead into a cycle can be followed one step. -/
theorem Loops.next (h : Loops R i) : ∃ j, R i j ∧ Loops R j := by
  obtain ⟨k, hk, hcycle⟩ := h
  rcases Relation.ReflTransGen.cases_head hk with rfl | ⟨j, hij, hjk⟩
  · obtain ⟨j, hj, hrest⟩ := Relation.TransGen.head'_iff.1 hcycle
    exact ⟨j, hj, i, hrest, hcycle⟩
  · exact ⟨j, hij, k, hjk, hcycle⟩

end Following

end Schedules
