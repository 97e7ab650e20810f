import Mathlib.Algebra.Order.Ring.Nat

/-!
# A flag in a word

One bit of a word is a flag, and the others are a number. Code that masks the flag out reads the
same number whether it is set or not; code that compares whole words tells the two apart.

## Main definitions

* `setFlag`, `clearFlag`: the word with its flag set or clear.

## Main results

* `setFlag_ne_clearFlag`: whole words tell the two apart.
* `clearFlag_eq_iff`: which words have the same number.
-/

namespace FlagBit

variable {w i : ℕ} {x y : BitVec w}

/-- The word with its flag, the bit `i`, set. -/
def setFlag (i : ℕ) (x : BitVec w) : BitVec w := x ||| BitVec.twoPow w i

/-- The word with its flag clear. -/
def clearFlag (i : ℕ) (x : BitVec w) : BitVec w := x &&& ~~~BitVec.twoPow w i

theorem getLsbD_setFlag {j : ℕ} (hj : j < w) :
    (setFlag i x).getLsbD j = (x.getLsbD j || decide (j = i)) := by
  simp [setFlag, hj]

theorem getLsbD_clearFlag {j : ℕ} (hj : j < w) :
    (clearFlag i x).getLsbD j = (x.getLsbD j && !decide (j = i)) := by
  simp [clearFlag, hj]

/-- A set flag is not a clear one. -/
theorem setFlag_ne_clearFlag (hi : i < w) : setFlag i x ≠ clearFlag i y := by
  intro h
  have hbit := congrArg (BitVec.getLsbD · i) h
  simp [getLsbD_setFlag hi, getLsbD_clearFlag hi] at hbit

theorem clearFlag_setFlag : clearFlag i (setFlag i x) = clearFlag i x := by
  refine BitVec.eq_of_getLsbD_eq fun j hj => ?_
  rw [getLsbD_clearFlag hj, getLsbD_clearFlag hj, getLsbD_setFlag hj]
  by_cases hij : j = i <;> simp [hij]

theorem clearFlag_clearFlag : clearFlag i (clearFlag i x) = clearFlag i x := by
  rw [clearFlag, clearFlag, BitVec.and_assoc, BitVec.and_self]

/-- **Two words have the same number** if the first is the second one with its flag set or clear. -/
theorem clearFlag_eq_iff : clearFlag i x = clearFlag i y ↔ x = setFlag i y ∨ x = clearFlag i y := by
  constructor
  · intro h
    have hbits {j : ℕ} (hj : j < w) (hij : j ≠ i) : x.getLsbD j = y.getLsbD j := by
      have hbit := congrArg (BitVec.getLsbD · j) h
      simpa [getLsbD_clearFlag hj, hij] using hbit
    -- the flag of `x` decides which of the two it is
    cases hflag : x.getLsbD i with
    | true =>
      refine .inl (BitVec.eq_of_getLsbD_eq fun j hj => ?_)
      rw [getLsbD_setFlag hj]
      by_cases hij : j = i
      · simp [hij, hflag]
      · simp [hij, hbits hj hij]
    | false =>
      refine .inr (BitVec.eq_of_getLsbD_eq fun j hj => ?_)
      rw [getLsbD_clearFlag hj]
      by_cases hij : j = i
      · simp [hij, hflag]
      · simp [hij, hbits hj hij]
  · rintro (rfl | rfl)
    · exact clearFlag_setFlag
    · exact clearFlag_clearFlag

end FlagBit
