import Mathlib.Algebra.CharP.Two
import Mathlib.Algebra.Polynomial.Div

/-!
# Linear feedback shift registers

A register of `w` bits is shifted to the left; if a one leaves it, a mask is added. Read as
polynomials over a ring of characteristic two, a shift is the multiplication by `X` modulo
`X ^ w + mask`. Hence shifts respect the exclusive or, and they lose nothing if the mask is odd.

## Main definitions

* `shift`: one shift of a register.
* `toPoly`, `modulus`: a register and a mask as polynomials.

## Main results

* `shift_iterate_xor`: shifts respect the exclusive or.
* `shift_iterate_injective`: with an odd mask, they are injective.
* `toPoly_iterate`: `n` shifts are the multiplication by `X ^ n` modulo the modulus.
-/

namespace ShiftRegister

open Polynomial

variable {w : ℕ} {mask : BitVec w}

/-- One shift of a register. -/
def shift (mask s : BitVec w) : BitVec w := if s.msb then (s <<< 1) ^^^ mask else s <<< 1

/-! ### Exclusive or -/

theorem shift_xor (a b : BitVec w) : shift mask (a ^^^ b) = shift mask a ^^^ shift mask b := by
  unfold shift
  rw [BitVec.msb_xor, BitVec.shiftLeft_xor_distrib]
  cases a.msb <;> cases b.msb
  · rfl
  · simp [BitVec.xor_assoc]
  · simp [BitVec.xor_assoc, BitVec.xor_comm mask]
  · have hcancel : a <<< 1 ^^^ mask ^^^ (b <<< 1 ^^^ mask) = a <<< 1 ^^^ b <<< 1 := by
      rw [BitVec.xor_comm (b <<< 1), BitVec.xor_assoc, ← BitVec.xor_assoc mask, BitVec.xor_self,
        BitVec.zero_xor]
    simpa using hcancel.symm

theorem shift_iterate_xor (n : ℕ) (a b : BitVec w) :
    (shift mask)^[n] (a ^^^ b) = (shift mask)^[n] a ^^^ (shift mask)^[n] b := by
  induction n with
  | zero => rfl
  | succ n ih =>
    rw [Function.iterate_succ_apply', ih, shift_xor, Function.iterate_succ_apply',
      Function.iterate_succ_apply']

/-! ### Injectivity -/

/-- A bit that a shift moves. -/
theorem getLsbD_shiftLeft_succ (s : BitVec w) (i : ℕ) :
    (s <<< 1).getLsbD (i + 1) = (decide (i + 1 < w) && s.getLsbD i) := by
  simp

theorem getLsbD_last (s : BitVec w) : s.getLsbD (w - 1) = s.msb := by
  rw [BitVec.msb_eq_getLsbD_last]

/-- With an odd mask, only the zero register is shifted to zero. -/
theorem eq_zero_of_shift_eq_zero (hmask : mask.getLsbD 0 = true) {s : BitVec w}
    (h : shift mask s = 0) : s = 0 := by
  have hmsb : s.msb = false := by
    by_contra htrue
    have htrue' : s.msb = true := by simpa using htrue
    rw [shift, if_pos htrue'] at h
    -- the lowest bit of the result is that of the mask
    have hbit := congrArg (fun v => BitVec.getLsbD v 0) h
    simp [hmask] at hbit
  rw [shift, hmsb, if_neg Bool.false_ne_true] at h
  apply BitVec.eq_of_getLsbD_eq
  intro i hi
  have hzero : (0 : BitVec w).getLsbD i = false := BitVec.getLsbD_zero
  rw [hzero]
  by_cases hlast : i + 1 < w
  · have hbit : (s <<< 1).getLsbD (i + 1) = (0 : BitVec w).getLsbD (i + 1) := by rw [h]
    rw [getLsbD_shiftLeft_succ] at hbit
    simpa [hlast] using hbit
  · obtain rfl : i = w - 1 := by omega
    rw [getLsbD_last, hmsb]

theorem shift_injective (hmask : mask.getLsbD 0 = true) : Function.Injective (shift mask) := by
  intro a b h
  have hzero : shift mask (a ^^^ b) = 0 := by
    rw [shift_xor, h]
    exact BitVec.xor_self
  exact BitVec.xor_eq_zero_iff.1 (eq_zero_of_shift_eq_zero hmask hzero)

theorem shift_iterate_injective (hmask : mask.getLsbD 0 = true) (n : ℕ) :
    Function.Injective (shift mask)^[n] :=
  (shift_injective hmask).iterate n

/-! ### Polynomials -/

variable {R : Type*} [CommRing R]

variable (R) in
/-- A register as a polynomial, its lowest bit the constant coefficient. -/
noncomputable def toPoly (s : BitVec w) : R[X] :=
  ∑ i ∈ Finset.range w, if s.getLsbD i then X ^ i else 0

variable (R) in
/-- The modulus that belongs to a mask. -/
noncomputable def modulus (mask : BitVec w) : R[X] := X ^ w + toPoly R mask

theorem coeff_toPoly (s : BitVec w) (i : ℕ) :
    (toPoly R s).coeff i = if s.getLsbD i then 1 else 0 := by
  have hterm (j : ℕ) : (if s.getLsbD j then (X : R[X]) ^ j else 0).coeff i =
      if j = i then (if s.getLsbD i then 1 else 0) else 0 := by
    by_cases hj : j = i
    · subst hj
      cases s.getLsbD j <;> simp
    · have hi : ¬i = j := fun h => hj h.symm
      cases s.getLsbD j <;> simp [coeff_X_pow, hi, hj]
  rw [toPoly, finsetSum_coeff, Finset.sum_congr rfl fun j _ => hterm j, Finset.sum_ite_eq']
  by_cases hi : i < w
  · rw [if_pos (Finset.mem_range.2 hi)]
  · rw [if_neg fun hmem => hi (Finset.mem_range.1 hmem), BitVec.getLsbD_of_ge s i (Nat.not_lt.1 hi)]
    rfl

theorem degree_toPoly_lt (s : BitVec w) : (toPoly R s).degree < w := by
  rw [degree_lt_iff_coeff_zero]
  intro i hi
  rw [coeff_toPoly, BitVec.getLsbD_of_ge s i hi]
  rfl

theorem modulus_monic (mask : BitVec w) : (modulus R mask).Monic :=
  monic_X_pow_add (degree_toPoly_lt mask)

theorem degree_modulus [Nontrivial R] (mask : BitVec w) : (modulus R mask).degree = w := by
  have hdegree : (toPoly R mask).degree < (X ^ w : R[X]).degree := by
    rw [degree_X_pow]
    exact degree_toPoly_lt mask
  rw [modulus, degree_add_eq_left_of_degree_lt hdegree, degree_X_pow]

/-- A shift to the left is the multiplication by `X`, but for the bit that leaves the register. -/
theorem toPoly_shiftLeft (s : BitVec w) :
    toPoly R (s <<< 1) + (if s.msb then X ^ w else 0) = X * toPoly R s := by
  ext i
  have hcarry : (if s.msb then (X : R[X]) ^ w else 0).coeff i =
      if i = w ∧ s.msb = true then 1 else 0 := by
    cases s.msb <;> simp [coeff_X_pow]
  rw [coeff_add, coeff_toPoly, hcarry]
  cases i with
  | zero =>
    rw [coeff_X_mul_zero]
    have hempty : ¬(0 = w ∧ s.msb = true) := by
      rintro ⟨rfl, hmsb⟩
      simp [BitVec.eq_nil s] at hmsb
    rw [if_neg hempty]
    simp
  | succ i =>
    rw [coeff_X_mul, coeff_toPoly, getLsbD_shiftLeft_succ]
    rcases Nat.lt_trichotomy (i + 1) w with hlt | rfl | hgt
    · simp [hlt, hlt.ne]
    · rw [← getLsbD_last]
      simp
    · have hbit : s.getLsbD i = false := BitVec.getLsbD_of_ge s i (by omega)
      simp [hgt.ne', hbit]

section CharTwo

variable [CharP R 2]

theorem toPoly_xor (a b : BitVec w) : toPoly R (a ^^^ b) = toPoly R a + toPoly R b := by
  ext i
  rw [coeff_add, coeff_toPoly, coeff_toPoly, coeff_toPoly, BitVec.getLsbD_xor]
  cases a.getLsbD i <;> cases b.getLsbD i <;> simp [CharTwo.add_self_eq_zero]

/-- **A shift** is the multiplication by `X` modulo the modulus. -/
theorem toPoly_shift (mask s : BitVec w) :
    toPoly R (shift mask s) + modulus R mask * (if s.msb then 1 else 0) = X * toPoly R s := by
  rw [← toPoly_shiftLeft, shift, modulus]
  cases s.msb with
  | false => simp
  | true =>
    have htwice : toPoly R mask + toPoly R mask = 0 := CharTwo.add_self_eq_zero _
    simp only [if_true, mul_one, toPoly_xor]
    calc toPoly R (s <<< 1) + toPoly R mask + (X ^ w + toPoly R mask)
        = toPoly R (s <<< 1) + X ^ w + (toPoly R mask + toPoly R mask) := by ring
      _ = toPoly R (s <<< 1) + X ^ w := by rw [htwice, add_zero]

/-- What `n` shifts are, up to a multiple of the modulus. -/
theorem exists_toPoly_iterate (mask s : BitVec w) (n : ℕ) :
    ∃ q, toPoly R ((shift mask)^[n] s) + modulus R mask * q = toPoly R s * X ^ n := by
  induction n with
  | zero => exact ⟨0, by simp⟩
  | succ n ih =>
    obtain ⟨q, hq⟩ := ih
    have hshift := toPoly_shift (R := R) mask ((shift mask)^[n] s)
    refine ⟨(if ((shift mask)^[n] s).msb then 1 else 0) + X * q, ?_⟩
    rw [Function.iterate_succ_apply', mul_add, ← add_assoc, hshift]
    calc X * toPoly R ((shift mask)^[n] s) + modulus R mask * (X * q)
        = (toPoly R ((shift mask)^[n] s) + modulus R mask * q) * X := by ring
      _ = toPoly R s * X ^ (n + 1) := by rw [hq, pow_succ, mul_assoc]

/-- **`n` shifts** are the multiplication by `X ^ n` modulo the modulus. -/
theorem toPoly_iterate (mask s : BitVec w) (n : ℕ) :
    toPoly R ((shift mask)^[n] s) = (toPoly R s * X ^ n) %ₘ modulus R mask := by
  have hnontrivial : Nontrivial R := CharP.nontrivial_of_char_ne_one (by decide : 2 ≠ 1)
  obtain ⟨q, hq⟩ := exists_toPoly_iterate (R := R) mask s n
  have hdegree : (toPoly R ((shift mask)^[n] s)).degree < (modulus R mask).degree := by
    rw [degree_modulus]
    exact degree_toPoly_lt _
  exact (div_modByMonic_unique q _ (modulus_monic mask) ⟨hq, hdegree⟩).2.symm

end CharTwo

end ShiftRegister
