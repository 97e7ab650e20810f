import Mathlib.Data.List.GetD
import Mathlib.Order.Interval.Set.Nat
import Mathlib.Tactic.Common

/-!
# Memories

A memory gives every address a cell. `cells` reads some cells in a row and `store` writes them. The
cells that a function on memories assigns are those whose contents afterwards do not depend on the
contents before.

## Main results

* `store_apply_of_outside`: the other cells keep their contents.
* `cells_store`, `cells_store_append`: what is read where something was written.
* `store_store_length`, `store_store_cell`: writing behind what was written, or into it.
* `assigned_store`: the cells that are assigned.
-/

namespace Memory

variable {β : Type*}

/-- The `k` cells from `off` on. -/
def cells (mem : ℕ → β) (off k : ℕ) : List β := (List.range' off k).map mem

/-- The memory after the cells from `off` on have been assigned the values `bs`. -/
def store (mem : ℕ → β) (off : ℕ) (bs : List β) : ℕ → β := fun i =>
  if off ≤ i then bs.getD (i - off) (mem i) else mem i

variable {mem mem' : ℕ → β} {off k i : ℕ} {bs : List β}

@[simp] theorem length_cells (mem : ℕ → β) (off k : ℕ) : (cells mem off k).length = k := by
  simp [cells]

@[simp] theorem cells_zero (mem : ℕ → β) (off : ℕ) : cells mem off 0 = [] := rfl

theorem cells_add (mem : ℕ → β) (off k l : ℕ) :
    cells mem off (k + l) = cells mem off k ++ cells mem (off + k) l := by
  rw [cells, cells, cells, ← List.map_append, List.range'_append_1]

/-- The parts of what is read. -/
theorem cells_eq_append {xs ys : List β} (h : cells mem 0 k = xs ++ ys) :
    k = xs.length + ys.length ∧ cells mem 0 xs.length = xs ∧
      cells mem xs.length ys.length = ys := by
  have hlen : k = xs.length + ys.length := by
    have hlength := congrArg List.length h
    rwa [length_cells, List.length_append] at hlength
  rw [hlen, cells_add, Nat.zero_add] at h
  obtain ⟨hxs, hys⟩ := List.append_inj h (length_cells _ _ _)
  exact ⟨hlen, hxs, hys⟩

theorem cells_congr (h : ∀ i, off ≤ i → i < off + k → mem' i = mem i) :
    cells mem' off k = cells mem off k := by
  refine List.map_congr_left fun i hi => ?_
  obtain ⟨hle, hlt⟩ := List.mem_range'_1.1 hi
  exact h i hle hlt

theorem take_cells (mem : ℕ → β) (off k l : ℕ) :
    (cells mem off k).take l = cells mem off (min l k) := by
  refine List.ext_getElem (by simp) fun i hi hi' => ?_
  simp [cells]

/-- The other cells keep their contents. -/
theorem store_apply_of_outside (h : i < off ∨ off + bs.length ≤ i) :
    store mem off bs i = mem i := by
  unfold store
  rcases h with h | h
  · rw [if_neg (by omega)]
  · rw [if_pos (by omega), List.getD, List.getElem?_eq_none (by omega), Option.getD_none]

theorem cells_store (mem : ℕ → β) (off : ℕ) (bs : List β) :
    cells (store mem off bs) off bs.length = bs := by
  refine List.ext_getElem (by simp) fun i hi hi' => ?_
  simp [cells, store, hi']

/-- What is written behind some cells is read behind them. -/
theorem cells_store_append (mem : ℕ → β) (off : ℕ) (bs : List β) :
    cells (store mem off bs) 0 (off + bs.length) = cells mem 0 off ++ bs := by
  have hbefore : cells (store mem off bs) 0 off = cells mem 0 off :=
    cells_congr fun i _ hi => store_apply_of_outside (.inl (by omega))
  rw [cells_add, hbefore, Nat.zero_add, cells_store]

/-! ### Writing from the start on -/

theorem store_zero_apply (mem : ℕ → β) (bs : List β) (i : ℕ) :
    store mem 0 bs i = bs.getD i (mem i) := rfl

/-- Writing behind what was written at the start. -/
theorem store_store_length (mem : ℕ → β) (bs cs : List β) :
    store (store mem 0 bs) bs.length cs = store mem 0 (bs ++ cs) := by
  funext i
  rw [store_zero_apply]
  unfold store
  by_cases hi : bs.length ≤ i
  · rw [if_pos hi, if_pos (Nat.zero_le i), Nat.sub_zero, List.getD_append_right _ _ _ _ hi,
      List.getD_eq_default _ _ hi]
  · rw [if_neg hi, if_pos (Nat.zero_le i), Nat.sub_zero, List.getD_append _ _ _ _ (by omega)]

/-- Writing into what was written at the start. -/
theorem store_store_cell (mem : ℕ → β) (hi : i < bs.length) (b : β) :
    store (store mem 0 bs) i [b] = store mem 0 (bs.set i b) := by
  funext j
  rw [store_zero_apply, List.getD, List.getElem?_set]
  by_cases hij : i = j
  · subst hij
    simp [store, hi]
  · rw [if_neg hij, store_apply_of_outside (by rw [List.length_singleton]; omega),
      store_zero_apply, List.getD]

/-- The cells that a function assigns: what they hold afterwards does not depend on the memory it
is called on. -/
def assigned (f : (ℕ → β) → ℕ → β) : Set ℕ := { i | ∀ mem mem', f mem i = f mem' i }

/-- **The cells that are assigned** by writing at the start. -/
theorem assigned_store [Nontrivial β] (bs : List β) :
    assigned (fun mem => store mem 0 bs) = Set.Iio bs.length := by
  ext i
  constructor
  · intro hi
    by_contra hlt
    obtain ⟨b, c, hne⟩ := exists_pair_ne β
    refine hne ?_
    simpa [store_zero_apply, List.getElem?_eq_none (Nat.not_lt.1 hlt)] using
      hi (fun _ => b) fun _ => c
  · intro hi mem mem'
    have hlt : i < bs.length := hi
    simp [store_zero_apply, hlt]

end Memory
