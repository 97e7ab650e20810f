import EcuUpgrade.Lib.ShiftRegister
import EcuUpgrade.Security.Unlock
import Mathlib

/-!
# The key algorithm

Client and server compute the key from the seed with the same function, the client from the bytes
it received and the server from the word it keeps. The function shifts a register of 32 bits 32
times.

## Main definitions

* `etasAlgo`: the key that the client computes from the bytes of a seed.

## Main results

* `seedToKey_toBitVec`: the function shifts a register.
* `seedToKey_injective`: with an odd mask, no two seeds share a key.
* `keyAlgorithm`: **the algebra of the key algorithm**, and the one key that the server accepts.
-/

namespace EcuUpgrade

open ResponseCode BigEndian ShiftRegister Polynomial

variable {B : Build} {s t : Sys} {x : Exchange} {level : UInt8} {seed : UInt32}

/-- `etas_algo` of the client, which does not look at the level. -/
def etasAlgo (seed : Bytes) : Bytes :=
  toBytes 4 (seedToKey (UInt32.ofNat (ofBytes seed)) learmask).toNat

/-! ### Rounds -/

theorem high_bit (a : UInt32) : a &&& 0x80000000 ≠ 0 ↔ a.toBitVec.msb = true := by
  have hword : (a &&& 0x80000000).toBitVec = a.toBitVec &&& BitVec.twoPow 32 31 := rfl
  rw [Ne, ← UInt32.toBitVec_inj, hword, BitVec.and_twoPow, BitVec.msb_eq_getLsbD_last]
  split_ifs with hbit
  · exact iff_of_true (by decide) hbit
  · exact iff_of_false (by simp) hbit

/-- A round shifts a register. -/
theorem seedToKeyRound_toBitVec (mask a : UInt32) :
    (seedToKeyRound mask a).toBitVec = shift mask.toBitVec a.toBitVec := by
  unfold seedToKeyRound shift
  by_cases hbit : a.toBitVec.msb = true
  · rw [if_pos ((high_bit a).2 hbit), if_pos hbit]
    rfl
  · rw [if_neg (mt (high_bit a).1 hbit), if_neg hbit]
    rfl

theorem shift_iterate_zero {w : ℕ} (mask : BitVec w) (n : ℕ) : (shift mask)^[n] 0 = 0 := by
  have hxor : (shift mask)^[n] (0 ^^^ 0) = (shift mask)^[n] 0 ^^^ (shift mask)^[n] 0 :=
    shift_iterate_xor n 0 0
  rwa [BitVec.xor_self, BitVec.xor_self] at hxor

/-- **The key algorithm shifts a register** 32 times, the zero register included. -/
theorem seedToKey_toBitVec (a mask : UInt32) :
    (seedToKey a mask).toBitVec = (shift mask.toBitVec)^[32] a.toBitVec := by
  have hrounds (n : ℕ) : ((seedToKeyRound mask)^[n] a).toBitVec =
      (shift mask.toBitVec)^[n] a.toBitVec := by
    induction n with
    | zero => rfl
    | succ n ih =>
      rw [Function.iterate_succ_apply', Function.iterate_succ_apply', seedToKeyRound_toBitVec, ih]
  unfold seedToKey
  by_cases hzero : a = 0
  · rw [if_neg (not_not.2 hzero), hzero]
    exact (shift_iterate_zero _ _).symm
  · rw [if_pos hzero, hrounds]

theorem seedToKey_xor (a b mask : UInt32) :
    seedToKey (a ^^^ b) mask = seedToKey a mask ^^^ seedToKey b mask := by
  apply UInt32.toBitVec_inj.1
  rw [seedToKey_toBitVec, UInt32.toBitVec_xor, UInt32.toBitVec_xor, seedToKey_toBitVec,
    seedToKey_toBitVec, shift_iterate_xor]

/-! ### Injectivity -/

theorem low_bit {mask : UInt32} (h : mask &&& 1 ≠ 0) : mask.toBitVec.getLsbD 0 = true := by
  have hword : (mask &&& 1).toBitVec = mask.toBitVec &&& BitVec.twoPow 32 0 := rfl
  by_contra hbit
  refine h (UInt32.toBitVec_inj.1 ?_)
  rw [hword, BitVec.and_twoPow, if_neg hbit]
  rfl

/-- **With an odd mask, no two seeds share a key.** -/
theorem seedToKey_injective {mask : UInt32} (h : mask &&& 1 ≠ 0) :
    Function.Injective (seedToKey · mask) := by
  intro a b heq
  have hregisters := congrArg UInt32.toBitVec heq
  rw [seedToKey_toBitVec, seedToKey_toBitVec] at hregisters
  exact UInt32.toBitVec_inj.1 (shift_iterate_injective (low_bit h) 32 hregisters)

theorem seedToKey_bijective {mask : UInt32} (h : mask &&& 1 ≠ 0) :
    Function.Bijective (seedToKey · mask) := by
  have hfinite : Finite UInt32 :=
    Finite.of_injective (fun a : UInt32 => a.toFin) fun a b heq => UInt32.toFin_inj.1 heq
  exact Finite.injective_iff_bijective.1 (seedToKey_injective h)

theorem seedToKey_eq_zero_iff {mask : UInt32} (h : mask &&& 1 ≠ 0) {a : UInt32} :
    seedToKey a mask = 0 ↔ a = 0 := by
  have hzero : seedToKey 0 mask = 0 := rfl
  constructor
  · intro heq
    exact seedToKey_injective h (heq.trans hzero.symm)
  · rintro rfl
    exact hzero

/-! ### Seeds and keys on the wire -/

theorem wordBytes_injective : Function.Injective wordBytes := by
  intro a b h
  rw [← word32_wordBytes a, h, word32_wordBytes]

/-- The word of four bytes, as the client and as the server read it. -/
theorem ofNat_ofBytes_wordBytes (w : UInt32) : UInt32.ofNat (ofBytes (wordBytes w)) = w := by
  rw [wordBytes, ofBytes_toBytes_of_lt (UInt32.toNat_lt _), UInt32.ofNat_toNat]

/-- **The client computes the key that the server expects**, from the bytes that were sent. -/
theorem etasAlgo_wordBytes (w : UInt32) :
    etasAlgo (wordBytes w) = wordBytes (seedToKey w learmask) := by
  rw [etasAlgo, ofNat_ofBytes_wordBytes]
  rfl

theorem etasAlgo_injective {a b : Bytes} (ha : a.length = 4) (hb : b.length = 4)
    (h : etasAlgo a = etasAlgo b) : a = b := by
  rw [← wordBytes_word32 ha, ← wordBytes_word32 hb] at h ⊢
  rw [etasAlgo_wordBytes, etasAlgo_wordBytes] at h
  rw [seedToKey_injective (by decide) (wordBytes_injective h)]

/-- A seed that was sent is the one that the server keeps. -/
theorem ServerStep.seed_of_answersSeed (hs : Settings s) (h : ServerStep B s x t)
    (hx : x.AnswersSeed level seed) : t.app.seed = seed := by
  obtain ⟨⟨hservice, rfl, hodd⟩, hcode, hsent⟩ := hx
  have hreq : x.IsSeedRequest (x.req.buf 1) := ⟨hservice, rfl, hodd⟩
  obtain ⟨hcode', hsent'⟩ := h.seedAnswer hs hreq
  obtain ⟨hpass, bs, hbs, -⟩ := hcode'.1 hcode
  have hbytes : bs = wordBytes seed := by
    have heq := (hsent' hcode bs hbs).symm.trans hsent
    split_ifs at heq
    · exact List.append_cancel_left heq
    · cases heq
  have hlen : (wordBytes seed).length = 4 := length_toBytes 4 _
  by_cases hlevel : x.req.buf 1 = s.srv.securityLevel
  · -- two bytes are too short for a seed
    rw [Sys.seedBytes, if_pos hlevel] at hbs
    rw [← hbytes, ← Option.some.inj hbs] at hlen
    cases hlen
  · rw [Sys.seedBytes, if_neg hlevel] at hbs
    obtain ⟨buf, hurandom, rfl⟩ := Option.map_eq_some_iff.1 hbs
    rw [h.seed_eq, drawnSeed, if_pos ⟨hservice, hodd, hpass, hlevel⟩, hurandom, Option.map_some,
      Option.getD_some, hbytes, word32_wordBytes]

/-- **The algebra of the key algorithm.** With an odd mask it is a bijection that maps only zero to
zero; with every mask it respects the exclusive or and is the multiplication by `X ^ 32` modulo
`X ^ 32` plus the mask. In every reachable state in which a seed was just sent, the server accepts
the key that the client computes from it and no other, and no two seeds share a key. -/
theorem keyAlgorithm :
    (∀ mask : UInt32, mask &&& 1 ≠ 0 → Function.Bijective (seedToKey · mask) ∧
        ∀ a, seedToKey a mask = 0 ↔ a = 0) ∧
      (∀ mask a b, seedToKey (a ^^^ b) mask = seedToKey a mask ^^^ seedToKey b mask) ∧
      (∀ mask a, toPoly (ZMod 2) (seedToKey a mask).toBitVec =
        (toPoly (ZMod 2) a.toBitVec * X ^ 32) %ₘ
          (X ^ 32 + toPoly (ZMod 2) mask.toBitVec)) ∧
      (∀ (B : Build) (tr : List Exchange) (s t : Sys) (x : Exchange) (level : UInt8)
        (seed : UInt32), ServerRun B tr s → ServerStep B s x t → x.AnswersSeed level seed →
          ∀ key, handleValidateKey t key = kPositiveResponse ↔ key = etasAlgo (wordBytes seed)) ∧
      ∀ a b : Bytes, a.length = 4 → b.length = 4 → etasAlgo a = etasAlgo b → a = b := by
  refine ⟨fun mask h => ⟨seedToKey_bijective h, fun a => seedToKey_eq_zero_iff h⟩,
    fun mask a b => seedToKey_xor a b mask, fun mask a => ?_, ?_, fun a b => etasAlgo_injective⟩
  · rw [seedToKey_toBitVec]
    exact toPoly_iterate _ _ 32
  · intro B tr s t x level seed hrun hstep hx key
    rw [handleValidateKey_iff, hstep.seed_of_answersSeed (ServerRun.settings hrun) hx,
      etasAlgo_wordBytes]

/-- A seed sent two seconds after start-up, with its key. -/
theorem keyAlgorithm_level_one : ∃ (tr : List Exchange) (s : Sys) (x : Exchange) (t : Sys),
    ServerRun ⟨65535, .test⟩ tr s ∧ ServerStep ⟨65535, .test⟩ s x t ∧
      x.AnswersSeed 1 0x01020304 ∧ Function.Bijective (seedToKey · learmask) ∧
      ∀ key, handleValidateKey t key = kPositiveResponse ↔ key = etasAlgo [1, 2, 3, 4] := by
  obtain ⟨halgebra, -, -, haccepts, -⟩ := keyAlgorithm
  obtain ⟨tr, t, hrun, x, hlast, hx⟩ := exists_run_of_serve ⟨65535, .test⟩ (.fair 0)
    (fun _ => none) [(.fair 2000, .ofBytes [0x27, 1] (by decide) fun _ => 0)]
    (fun tr _ => ∃ x ∈ tr.getLast?, x.AnswersSeed 1 0x01020304) (by decide +kernel)
  rw [← List.dropLast_append_getLast? x hlast] at hrun
  obtain ⟨s, hs, hstep⟩ := Runs.Run.snoc_iff.1 hrun
  have hbytes : wordBytes 0x01020304 = [1, 2, 3, 4] := by decide
  refine ⟨_, s, x, t, hs, hstep, hx, (halgebra learmask (by decide)).1, fun key => ?_⟩
  rw [haccepts _ _ s t x 1 _ hs hstep hx, hbytes]

end EcuUpgrade
