import Mathlib.Data.List.Basic
import Mathlib.Tactic.Common

/-!
# Cutting a list into blocks

`block b l i` is the `i`-th block of `b` elements of `l`: the elements from position `i * b` on,
at most `b` of them. Only the last block may be shorter. `blockCount n b` is the number of blocks
that cover a list of length `n`.

## Main results

* `flatten_block`: the first `j` blocks put together are the first `j * b` elements.
* `flatten_all_blocks`: `blockCount` many blocks put together are the whole list.
-/

namespace Blocks

variable {α : Type*} {b : ℕ}

/-- The `i`-th block of `b` elements. -/
def block (b : ℕ) (l : List α) (i : ℕ) : List α := (l.drop (i * b)).take b

/-- The number of blocks of `b` elements that cover `n` elements. -/
def blockCount (n b : ℕ) : ℕ := n / b + if n % b ≠ 0 then 1 else 0

theorem length_block_le (b : ℕ) (l : List α) (i : ℕ) : (block b l i).length ≤ b :=
  List.length_take_le b _

theorem take_succ_mul (b : ℕ) (l : List α) (j : ℕ) :
    l.take ((j + 1) * b) = l.take (j * b) ++ block b l j := by
  rw [Nat.add_mul, Nat.one_mul, List.take_add, block]

/-- The first `j` blocks put together are the first `j * b` elements. -/
theorem flatten_block (b : ℕ) (l : List α) (j : ℕ) :
    ((List.range j).map (block b l)).flatten = l.take (j * b) := by
  induction j with
  | zero => simp
  | succ j ih =>
    rw [List.range_succ, List.map_append, List.flatten_append, ih, take_succ_mul]
    simp

theorem length_flatten_block_le (b : ℕ) (l : List α) (j : ℕ) :
    ((List.range j).map (block b l)).flatten.length ≤ l.length := by
  rw [flatten_block]
  exact List.length_take_le' _ l

/-- The blocks counted by `blockCount` cover the list. -/
theorem le_blockCount_mul (n : ℕ) (hb : 0 < b) : n ≤ blockCount n b * b := by
  have hdiv : b * (n / b) + n % b = n := Nat.div_add_mod n b
  have hmod : n % b < b := Nat.mod_lt n hb
  unfold blockCount
  split_ifs with h
  · rw [Nat.add_mul, Nat.one_mul, Nat.mul_comm (n / b)]
    omega
  · rw [Nat.add_zero, Nat.mul_comm (n / b)]
    omega

/-- **The blocks of a list put together are the list.** -/
theorem flatten_all_blocks (l : List α) (hb : 0 < b) :
    ((List.range (blockCount l.length b)).map (block b l)).flatten = l := by
  rw [flatten_block]
  exact List.take_of_length_le (le_blockCount_mul l.length hb)

end Blocks
