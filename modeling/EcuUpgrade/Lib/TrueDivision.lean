import Mathlib.Data.Nat.Size
import Mathlib.Tactic.Ring
import Mathlib.Tactic.SplitIfs

/-!
# True division of integers in binary64

`p / q` of two integers is, in a language whose floats are IEEE binary64, the multiple of
the unit in the last place that is nearest to the exact quotient, ties going to the even one.
`trueDiv p q` is the integer part of that float, for natural numbers. Below `2 ^ 53` it is the
exact integer quotient; beyond, the rounding can reach the next integer.

## Main results

* `trueDiv_eq_div`: for `p < 2 ^ 53` the integer part of the rounded quotient is `p / q`.
-/

namespace TrueDivision

/-- The integer nearest to `p / q`, ties going to the even one. -/
def roundHalfEven (p q : ℕ) : ℕ :=
  if 2 * (p % q) < q then p / q
  else if q < 2 * (p % q) then p / q + 1
  else p / q + p / q % 2

/-- The integer part of the binary64 quotient `p / q`. The exact quotient lies below
`2 ^ size (p / q)`, so its significand of 53 bits ends at the bit `2 ^ (size (p / q) - 53)`. -/
def trueDiv (p q : ℕ) : ℕ :=
  if (p / q).size ≤ 53 then
    roundHalfEven (p * 2 ^ (53 - (p / q).size)) q / 2 ^ (53 - (p / q).size)
  else roundHalfEven p (q * 2 ^ ((p / q).size - 53)) * 2 ^ ((p / q).size - 53)

theorem div_le_roundHalfEven (p q : ℕ) : p / q ≤ roundHalfEven p q := by
  unfold roundHalfEven
  split_ifs <;> omega

/-- Rounding does not reach an integer that is further than half a unit above the quotient. -/
theorem roundHalfEven_lt {p q m : ℕ} (hq : 0 < q) (h : 2 * p + q < 2 * (m * q)) :
    roundHalfEven p q < m := by
  have hdiv : q * (p / q) + p % q = p := Nat.div_add_mod p q
  have hlt : p / q < m := by
    by_contra hge
    have hmul : m * q ≤ p / q * q := Nat.mul_le_mul_right q (Nat.le_of_not_lt hge)
    rw [Nat.mul_comm (p / q)] at hmul
    omega
  unfold roundHalfEven
  split_ifs with hlow hhigh
  · exact hlt
  · -- Rounding up to `m` itself would need a remainder of at least half of `q`.
    by_contra hge
    have hm : m = p / q + 1 := by omega
    rw [hm, Nat.add_mul, Nat.one_mul, Nat.mul_comm (p / q)] at h
    omega
  · by_contra hge
    have hm : m = p / q + 1 := by omega
    rw [hm, Nat.add_mul, Nat.one_mul, Nat.mul_comm (p / q)] at h
    omega

/-- **Exactness below `2 ^ 53`.** The quotient of a number below `2 ^ 53` keeps its integer part
when it is rounded: it stays more than half a unit in the last place below the next integer. -/
theorem trueDiv_eq_div {p q : ℕ} (hq : 0 < q) (hp : p < 2 ^ 53) : trueDiv p q = p / q := by
  have hsize : (p / q).size ≤ 53 :=
    Nat.size_le.2 (lt_of_le_of_lt (Nat.div_le_self p q) hp)
  rw [trueDiv, if_pos hsize]
  set k := 53 - (p / q).size with hk
  have hdiv : q * (p / q) + p % q = p := Nat.div_add_mod p q
  have hmod : p % q < q := Nat.mod_lt p hq
  -- The gap to the next integer, `q - p % q` parts in `q`, exceeds half a unit `2 ^ -(k + 1)`.
  have hgap : q < 2 ^ (k + 1) * (q - p % q) := by
    rcases Nat.eq_zero_or_pos (p / q) with h0 | hpos
    · have hk53 : k = 53 := by rw [hk, h0, Nat.size_zero]
      have hpq : p < q := (Nat.div_eq_zero_iff_lt hq).1 h0
      rw [hk53, Nat.mod_eq_of_lt hpq]
      omega
    · have hlow : 2 ^ ((p / q).size - 1) ≤ p / q := by
        have hs : 0 < (p / q).size := Nat.size_pos.2 hpos
        exact Nat.lt_size.1 (by omega)
      have hmul : 2 ^ ((p / q).size - 1) * q < 2 ^ ((p / q).size - 1) * 2 ^ (k + 1) := by
        have hs : 0 < (p / q).size := Nat.size_pos.2 hpos
        have hexp : (p / q).size - 1 + (k + 1) = 53 := by omega
        rw [← pow_add, hexp]
        calc 2 ^ ((p / q).size - 1) * q ≤ p / q * q := Nat.mul_le_mul_right q hlow
          _ ≤ p := Nat.div_mul_le_self p q
          _ < 2 ^ 53 := hp
      have hq2 : q < 2 ^ (k + 1) := Nat.lt_of_mul_lt_mul_left hmul
      calc q < 2 ^ (k + 1) * 1 := by rwa [Nat.mul_one]
        _ ≤ 2 ^ (k + 1) * (q - p % q) := Nat.mul_le_mul_left _ (by omega)
  have hlow : p / q * 2 ^ k ≤ roundHalfEven (p * 2 ^ k) q := by
    refine le_trans ?_ (div_le_roundHalfEven _ q)
    rw [Nat.le_div_iff_mul_le hq, Nat.mul_right_comm]
    exact Nat.mul_le_mul_right _ (Nat.div_mul_le_self p q)
  have hhigh : roundHalfEven (p * 2 ^ k) q < (p / q + 1) * 2 ^ k := by
    apply roundHalfEven_lt hq
    have hsum : (p / q + 1) * q = p + (q - p % q) := by
      rw [Nat.add_mul, Nat.one_mul, Nat.mul_comm (p / q)]
      omega
    rw [Nat.mul_right_comm, hsum, Nat.add_mul, Nat.mul_add 2, Nat.add_lt_add_iff_left]
    calc q < 2 ^ (k + 1) * (q - p % q) := hgap
      _ = 2 * ((q - p % q) * 2 ^ k) := by rw [pow_succ]; ring
  exact Nat.div_eq_of_lt_le hlow hhigh

/-- Beyond the bound the rounding can reach the next integer. -/
example : trueDiv (3 * 2 ^ 53 - 1) 3 = 2 ^ 53 ∧ (3 * 2 ^ 53 - 1) / 3 = 2 ^ 53 - 1 := by decide

end TrueDivision
