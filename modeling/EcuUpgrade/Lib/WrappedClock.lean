import Mathlib.Algebra.Order.Ring.Nat

/-!
# Clocks that wrap around

A clock whose readings are truncated to `w` bits is compared with a deadline by the sign of the
difference of the two. The comparison knows nothing of how often the clock has wrapped around, so
that it is wrong half of the time about deadlines in the remote past. It is never wrong in the other
direction: it takes a time to be after a deadline of the near future only when it is.

## Main definitions

* `reading`: a time as the clock shows it.
* `after`: the comparison.

## Main results

* `after_iff`: what the comparison says about true times.
* `lt_of_after`: it is never wrong about deadlines of the near future.
-/

namespace WrappedClock

variable {w : ℕ}

/-- A time as the clock shows it. -/
def reading (w t : ℕ) : BitVec w := BitVec.ofNat w t

/-- Whether a reading is after a deadline: the difference is negative as a signed number. -/
def after (now deadline : BitVec w) : Bool := (deadline - now).msb

theorem reading_add (w t u : ℕ) : reading w (t + u) = reading w t + reading w u :=
  BitVec.ofNat_add t u

theorem reading_sub {t u : ℕ} (h : t ≤ u) : reading w u - reading w t = reading w (u - t) := by
  obtain ⟨k, rfl⟩ := Nat.exists_eq_add_of_le h
  rw [reading_add, Nat.add_sub_cancel_left, BitVec.add_comm, BitVec.add_sub_cancel]

/-- **What the comparison says about true times**: it takes a time to be after a deadline of less
than half a period ahead if it is, by at most half a period, modulo the period. -/
theorem after_iff {now deadline : ℕ} (hw : 0 < w) (hnear : deadline < now + 2 ^ (w - 1)) :
    after (reading w now) (reading w deadline) = true ↔
      deadline < now ∧ (now - deadline - 1) % 2 ^ w < 2 ^ (w - 1) := by
  have hhalf : 2 * 2 ^ (w - 1) = 2 ^ w := by
    rw [← Nat.pow_succ', Nat.succ_eq_add_one, Nat.sub_add_cancel hw]
  rcases Nat.lt_or_ge deadline now with hlt | hle
  · -- the difference is the complement of the time that has passed
    obtain ⟨k, rfl⟩ := Nat.exists_eq_add_of_lt hlt
    have hdifference : reading w deadline - reading w (deadline + k + 1) = ~~~ reading w k := by
      rw [Nat.add_assoc, reading_add, reading_add, BitVec.not_eq_neg_add]
      have hone : reading w 1 = 1#w := rfl
      rw [hone]
      grind
    have hk : deadline + k + 1 - deadline - 1 = k := by omega
    rw [after, hdifference, BitVec.msb_not, BitVec.msb_eq_decide, reading, BitVec.toNat_ofNat, hk]
    simp [hw, hlt]
  · have hpositive : (reading w (deadline - now)).msb = false := by
      rw [BitVec.msb_eq_false_iff_two_mul_lt, reading, BitVec.toNat_ofNat]
      have hmod : (deadline - now) % 2 ^ w ≤ deadline - now := Nat.mod_le _ _
      omega
    rw [after, reading_sub hle, hpositive]
    exact iff_of_false Bool.false_ne_true fun h => absurd h.1 (Nat.not_lt.2 hle)

/-- A reading that is after a deadline of less than half a period ahead is truly later. -/
theorem lt_of_after {now deadline : ℕ} (hw : 0 < w) (hnear : deadline < now + 2 ^ (w - 1))
    (h : after (reading w now) (reading w deadline) = true) : deadline < now :=
  ((after_iff hw hnear).1 h).1

end WrappedClock
