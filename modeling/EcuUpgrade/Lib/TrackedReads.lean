import Mathlib.Data.List.Basic
import Mathlib.Tactic.Common

/-!
# Computations that read a memory

`Reads β α` is a computation with result in `α` that may look at the cells of a memory `ℕ → β`,
one at a time, each read deciding how it goes on. `run` gives its result on a memory and `indices`
the cells it looked at, in order. Since a computation is the tree of its reads, its result can
depend on nothing but the cells it reads.

## Main results

* `Reads.run_congr`: on two memories that agree on the cells read on the first, a computation gives
  the same result.
-/

/-- A computation that reads cells of a memory `ℕ → β`. -/
inductive Reads (β : Type) (α : Type) : Type
  | done (a : α) : Reads β α
  | read (i : ℕ) (next : β → Reads β α) : Reads β α

namespace Reads

variable {β α γ : Type}

/-- The result on a memory. -/
def run (mem : ℕ → β) : Reads β α → α
  | done a => a
  | read i next => run mem (next (mem i))

/-- The cells read on a memory, in order. -/
def indices (mem : ℕ → β) : Reads β α → List ℕ
  | done _ => []
  | read i next => i :: indices mem (next (mem i))

/-- One computation after another. -/
def bind : Reads β α → (α → Reads β γ) → Reads β γ
  | done a, f => f a
  | read i next, f => read i fun b => bind (next b) f

instance : Monad (Reads β) where
  pure := done
  bind := bind

/-- The cell `i`. -/
def cell (i : ℕ) : Reads β β := read i done

/-- The cells `off, …, off + k - 1`. -/
def slice (off : ℕ) : ℕ → Reads β (List β)
  | 0 => done []
  | k + 1 => do
    let b ← cell off
    let bs ← slice (off + 1) k
    pure (b :: bs)

@[simp] theorem run_pure (mem : ℕ → β) (a : α) : run mem (pure a) = a := rfl

@[simp] theorem run_done (mem : ℕ → β) (a : α) : run mem (done a) = a := rfl

@[simp] theorem run_cell (mem : ℕ → β) (i : ℕ) : run mem (cell i) = mem i := rfl

@[simp] theorem indices_pure (mem : ℕ → β) (a : α) : indices mem (pure a) = [] := rfl

@[simp] theorem indices_done (mem : ℕ → β) (a : α) : indices mem (done a) = [] := rfl

@[simp] theorem indices_cell (mem : ℕ → β) (i : ℕ) : indices mem (cell i) = [i] := rfl

@[simp] theorem run_bind (mem : ℕ → β) (c : Reads β α) (f : α → Reads β γ) :
    run mem (c >>= f) = run mem (f (run mem c)) := by
  change run mem (bind c f) = _
  induction c with
  | done a => rfl
  | read i next ih => exact ih (mem i)

@[simp] theorem indices_bind (mem : ℕ → β) (c : Reads β α) (f : α → Reads β γ) :
    indices mem (c >>= f) = indices mem c ++ indices mem (f (run mem c)) := by
  change indices mem (bind c f) = _
  induction c with
  | done a => rfl
  | read i next ih => exact congrArg (i :: ·) (ih (mem i))

@[simp] theorem run_ite (mem : ℕ → β) (p : Prop) [Decidable p] (c c' : Reads β α) :
    run mem (if p then c else c') = if p then run mem c else run mem c' :=
  apply_ite (run mem) p c c'

@[simp] theorem indices_ite (mem : ℕ → β) (p : Prop) [Decidable p] (c c' : Reads β α) :
    indices mem (if p then c else c') = if p then indices mem c else indices mem c' :=
  apply_ite (indices mem) p c c'

@[simp] theorem run_slice (mem : ℕ → β) (off k : ℕ) :
    run mem (slice off k) = (List.range' off k).map mem := by
  induction k generalizing off with
  | zero => rfl
  | succ k ih => simp [slice, ih, List.range'_succ]

@[simp] theorem indices_slice (mem : ℕ → β) (off k : ℕ) :
    indices mem (slice off k) = List.range' off k := by
  induction k generalizing off with
  | zero => rfl
  | succ k ih => simp [slice, ih, List.range'_succ]

/-- The result depends on the cells that are read only. -/
theorem run_congr {mem mem' : ℕ → β} (c : Reads β α) (h : ∀ i ∈ indices mem c, mem i = mem' i) :
    run mem c = run mem' c := by
  induction c with
  | done a => rfl
  | read i next ih =>
    have hi : mem i = mem' i := h i List.mem_cons_self
    have hrest : run mem (next (mem i)) = run mem' (next (mem i)) :=
      ih (mem i) fun j hj => h j (List.mem_cons_of_mem _ hj)
    rw [run, hrest, hi, run]

end Reads
