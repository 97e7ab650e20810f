import Mathlib.Algebra.Order.Ring.Nat
import Mathlib.Tactic.Ring

/-!
# Big-endian byte strings

`ofBytes` reads a byte string as a number, most significant byte first; `toBytes k n` writes a
number on exactly `k` bytes, dropping what does not fit. `orLoop` is the way such a number is
usually read in C: every byte is shifted to its place and or-ed into an accumulator.

## Main results

* `ofBytes_toBytes`: reading what was written gives the number modulo `256 ^ k`.
* `toBytes_ofBytes`: writing what was read gives the bytes back.
* `orLoop_eq_ofBytes`: the shift-and-or loop reads the big-endian number.
-/

namespace BigEndian

/-- The number written, most significant byte first, by a byte string. -/
def ofBytes : List UInt8 → ℕ
  | [] => 0
  | b :: bs => b.toNat * 256 ^ bs.length + ofBytes bs

/-- The `k` bytes of `n`, most significant byte first; higher bits are dropped. -/
def toBytes : ℕ → ℕ → List UInt8
  | 0, _ => []
  | k + 1, n => UInt8.ofNat (n / 256 ^ k) :: toBytes k n

@[simp] theorem ofBytes_nil : ofBytes [] = 0 := rfl

@[simp] theorem ofBytes_cons (b : UInt8) (bs : List UInt8) :
    ofBytes (b :: bs) = b.toNat * 256 ^ bs.length + ofBytes bs := rfl

@[simp] theorem toBytes_zero (n : ℕ) : toBytes 0 n = [] := rfl

@[simp] theorem toBytes_succ (k n : ℕ) :
    toBytes (k + 1) n = UInt8.ofNat (n / 256 ^ k) :: toBytes k n := rfl

@[simp] theorem length_toBytes (k n : ℕ) : (toBytes k n).length = k := by
  induction k with
  | zero => rfl
  | succ k ih => simp only [toBytes_succ, List.length_cons, ih]

theorem ofBytes_append (bs cs : List UInt8) :
    ofBytes (bs ++ cs) = ofBytes bs * 256 ^ cs.length + ofBytes cs := by
  induction bs with
  | nil => simp
  | cons b bs ih =>
    simp only [List.cons_append, ofBytes_cons, ih, List.length_append, pow_add]
    ring

theorem ofBytes_lt (bs : List UInt8) : ofBytes bs < 256 ^ bs.length := by
  induction bs with
  | nil => simp
  | cons b bs ih =>
    have hb : b.toNat < 256 := b.toNat_lt
    have hmul : (b.toNat + 1) * 256 ^ bs.length ≤ 256 * 256 ^ bs.length :=
      Nat.mul_le_mul_right _ hb
    rw [ofBytes_cons, List.length_cons, pow_succ']
    calc b.toNat * 256 ^ bs.length + ofBytes bs
        < (b.toNat + 1) * 256 ^ bs.length := by rw [add_mul, one_mul]; omega
      _ ≤ 256 * 256 ^ bs.length := hmul

/-- Reading `k` written bytes gives the number modulo `256 ^ k`. -/
theorem ofBytes_toBytes (k n : ℕ) : ofBytes (toBytes k n) = n % 256 ^ k := by
  induction k with
  | zero => simp [Nat.mod_one]
  | succ k ih =>
    have hbyte : (UInt8.ofNat (n / 256 ^ k)).toNat = n / 256 ^ k % 256 := UInt8.toNat_ofNat'
    calc ofBytes (toBytes (k + 1) n)
        = n / 256 ^ k % 256 * 256 ^ k + n % 256 ^ k := by
          rw [toBytes_succ, ofBytes_cons, ih, length_toBytes, hbyte]
      _ = n % (256 ^ k * 256) := by rw [Nat.mod_mul]; ring
      _ = n % 256 ^ (k + 1) := by rw [pow_succ]

theorem ofBytes_toBytes_of_lt {k n : ℕ} (h : n < 256 ^ k) : ofBytes (toBytes k n) = n := by
  rw [ofBytes_toBytes, Nat.mod_eq_of_lt h]

/-- Adding a multiple of `256 ^ k` does not change the lower `k` bytes. -/
theorem toBytes_add_mul (k a n : ℕ) : toBytes k (a * 256 ^ k + n) = toBytes k n := by
  induction k generalizing a with
  | zero => rfl
  | succ k ih =>
    have hpow : a * 256 ^ (k + 1) + n = (a * 256) * 256 ^ k + n := by ring
    rw [toBytes_succ, toBytes_succ, hpow, ih, Nat.add_comm,
      Nat.add_mul_div_right _ _ (Nat.pow_pos (by decide))]
    have hbyte : UInt8.ofNat (n / 256 ^ k + a * 256) = UInt8.ofNat (n / 256 ^ k) := by
      apply UInt8.toNat.inj
      simp only [UInt8.toNat_ofNat']
      omega
    rw [hbyte]

/-- Writing what was read from a byte string gives the byte string back. -/
theorem toBytes_ofBytes (bs : List UInt8) : toBytes bs.length (ofBytes bs) = bs := by
  induction bs with
  | nil => rfl
  | cons b bs ih =>
    have hpos : 0 < 256 ^ bs.length := Nat.pow_pos (by decide)
    rw [List.length_cons, toBytes_succ, ofBytes_cons, toBytes_add_mul, ih, Nat.add_comm,
      Nat.add_mul_div_right _ _ hpos, Nat.div_eq_of_lt (ofBytes_lt bs), Nat.zero_add,
      UInt8.ofNat_toNat]

/-! ### The shift-and-or loop -/

/-- The loop `for (i = 0; i < k; i++) acc |= b[i] << (8 * (k - 1 - i))`. -/
def orLoop (b : ℕ → UInt8) (k : ℕ) : ℕ :=
  (List.range k).foldl (fun acc i => acc ||| (b i).toNat <<< (8 * (k - 1 - i))) 0

/-- After `j` of the `k` iterations, the accumulator holds the first `j` bytes in place. -/
private theorem orLoop_partial (b : ℕ → UInt8) (k j : ℕ) (h : j ≤ k) :
    (List.range j).foldl (fun acc i => acc ||| (b i).toNat <<< (8 * (k - 1 - i))) 0 =
      ofBytes ((List.range j).map b) <<< (8 * (k - j)) := by
  induction j with
  | zero => simp
  | succ j ih =>
    have hshift : 8 * (k - j) = 8 + 8 * (k - 1 - j) := by omega
    have hbyte : (b j).toNat < 2 ^ 8 := (b j).toNat_lt
    have hlast : k - (j + 1) = k - 1 - j := by omega
    rw [List.range_succ, List.foldl_append, ih (by omega), List.map_append, ofBytes_append,
      List.foldl_cons, List.foldl_nil, hshift, Nat.shiftLeft_add, ← Nat.shiftLeft_or_distrib,
      ← Nat.shiftLeft_add_eq_or_of_lt hbyte, hlast]
    simp [Nat.shiftLeft_eq]

/-- **The loop reads the big-endian number.** -/
theorem orLoop_eq_ofBytes (b : ℕ → UInt8) (k : ℕ) :
    orLoop b k = ofBytes ((List.range k).map b) := by
  rw [orLoop, orLoop_partial b k k le_rfl]
  simp

end BigEndian
