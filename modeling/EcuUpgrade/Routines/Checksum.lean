import EcuUpgrade.Server.Responses
import EcuUpgrade.Transfer.Decoder

/-!
# The checksum routine

The routine `0x0202` compares the digest that `md5sum` prints for the firmware file with the one
in the request. What it prints is taken apart by `calcFileChecksum`: the text is cut off at its
first blank and converted two characters at a time. For the lower-case digits of a digest this
gives the digest; for other texts an exception can leave the process, or the array overflows.

## Main definitions

* `hexText`: the lower-case hexadecimal form of a byte string.
* `pieces`, `Converts`: the pieces of a text, and the texts that can be converted.

## Main results

* `checksumLoop_hexText`: the loop decodes the hexadecimal form.
* `checksumLoop_isOk_iff`: when the loop ends without a fault.
* `compareLoop_eq`: the loop over the digests compares them.
* `checksum_decides_equality`: **the routine decides the equality of the digests.**
* `survives_iff`: **when the routine survives what was printed.**
-/

namespace EcuUpgrade

open ResponseCode

variable {B : Build} {env : Env} {s t : Sys} {q : Request} {x : Exchange} {text : Bytes}

/-! ### Hexadecimal digits -/

/-- The lower-case digit of a number below 16. -/
def lowerDigit (d : ℕ) : UInt8 := if d < 10 then UInt8.ofNat (0x30 + d) else UInt8.ofNat (0x57 + d)

/-- The lower-case hexadecimal form of a byte string. -/
def hexText (bs : Bytes) : Bytes :=
  bs.flatMap fun b => [lowerDigit (b.toNat / 16), lowerDigit (b.toNat % 16)]

theorem hexDigit_lowerDigit : ∀ d < 16, hexDigit (lowerDigit d) = some d := by
  decide

/-- A digit is neither a blank nor a sign. -/
theorem le_of_hexDigit {c : UInt8} {d : ℕ} (h : hexDigit c = some d) : 0x30 ≤ c.toNat := by
  unfold hexDigit at h
  split_ifs at h with h₁ h₂ h₃
  · exact UInt8.le_iff_toNat_le.1 h₁.1
  · exact le_trans (by decide) (UInt8.le_iff_toNat_le.1 h₂.1)
  · exact le_trans (by decide) (UInt8.le_iff_toNat_le.1 h₃.1)

theorem isSpace_of_hexDigit {c : UInt8} {d : ℕ} (h : hexDigit c = some d) : isSpace c = false := by
  have hle := le_of_hexDigit h
  have hne : c ≠ 0x20 := by
    rintro rfl
    exact absurd hle (by decide)
  have hgt : ¬c ≤ 0x0D := fun hc => absurd (hle.trans (UInt8.le_iff_toNat_le.1 hc)) (by decide)
  simp [isSpace, hne, hgt]

/-- **Two digits are converted** to the byte they stand for. -/
theorem stoi16_digits {a b : UInt8} {m n : ℕ} (ha : hexDigit a = some m)
    (hb : hexDigit b = some n) :
    stoi16 [a, b] = some (UInt8.ofNat (m * 16 + n)) := by
  have hle := le_of_hexDigit ha
  have hminus : a ≠ 0x2D := by
    rintro rfl
    exact absurd hle (by decide)
  have hplus : a ≠ 0x2B := by
    rintro rfl
    exact absurd hle (by decide)
  simp [stoi16, isSpace_of_hexDigit ha, hminus, hplus, ha, hb]

theorem stoi16_hexText (b : UInt8) :
    stoi16 [lowerDigit (b.toNat / 16), lowerDigit (b.toNat % 16)] = some b := by
  have hlt := b.toNat_lt
  have hdiv : b.toNat / 16 * 16 + b.toNat % 16 = b.toNat := by omega
  rw [stoi16_digits (hexDigit_lowerDigit _ (by omega)) (hexDigit_lowerDigit _ (by omega)), hdiv,
    UInt8.ofNat_toNat]

/-! ### Decoding -/

/-- The pieces of two characters that a text is converted in. -/
def pieces : Bytes → List Bytes
  | [] => []
  | [a] => [[a]]
  | a :: b :: rest => [a, b] :: pieces rest

/-- Every piece can be converted, and the array has room for all of them. -/
def Converts (text : Bytes) : Prop :=
  text.length ≤ 32 ∧ ∀ p ∈ pieces text, (stoi16 p).isSome = true

instance (text : Bytes) : Decidable (Converts text) := inferInstanceAs (Decidable (_ ∧ _))

theorem length_pieces (text : Bytes) : (pieces text).length = (text.length + 1) / 2 := by
  fun_induction pieces text with
  | case1 => rfl
  | case2 => simp
  | case3 a b rest ih =>
    rw [List.length_cons, ih, List.length_cons, List.length_cons]
    omega

theorem storeByte_isOk_iff (v : Option UInt8) (i : ℕ) (checksum : Bytes) :
    (∃ c, checksumLoop.storeByte v i checksum = .ok c) ↔ v.isSome = true ∧ i < 16 := by
  cases v with
  | none => simp [checksumLoop.storeByte]
  | some v =>
    rw [checksumLoop.storeByte]
    split_ifs with hi <;> simp [hi]

/-- **When the loop ends without a fault**, from any index on. -/
theorem checksumLoop_isOk_iff (text : Bytes) (i : ℕ) (checksum : Bytes) (hi : i ≤ 16) :
    (∃ c, checksumLoop text i checksum = .ok c) ↔
      i + (pieces text).length ≤ 16 ∧ ∀ p ∈ pieces text, (stoi16 p).isSome = true := by
  induction text using pieces.induct generalizing i checksum with
  | case1 => simp [checksumLoop, pieces, hi]
  | case2 a =>
    rw [checksumLoop, storeByte_isOk_iff, and_comm]
    exact and_congr Iff.rfl (by simp [pieces])
  | case3 a b rest ih =>
    have hstore := storeByte_isOk_iff (stoi16 [a, b]) i checksum
    simp only [pieces, List.length_cons, List.forall_mem_cons]
    rw [checksumLoop]
    cases hbyte : checksumLoop.storeByte (stoi16 [a, b]) i checksum with
    | error e =>
      have hfails : ¬((stoi16 [a, b]).isSome = true ∧ i < 16) := by
        rw [← hstore, hbyte]
        simp
      refine iff_of_false ?_ fun hcond => hfails ⟨hcond.2.1, by omega⟩
      rintro ⟨c, hc⟩
      cases hc
    | ok checksum' =>
      obtain ⟨hsome, hlt⟩ := hstore.1 ⟨checksum', hbyte⟩
      have hrest := ih (i + 1) checksum' hlt
      rw [and_iff_right hsome]
      refine hrest.trans (and_congr_left fun _ => ?_)
      omega

/-- The loop keeps the length of the array. -/
theorem checksumLoop_length {text : Bytes} {i : ℕ} {checksum c : Bytes}
    (h : checksumLoop text i checksum = .ok c) : c.length = checksum.length := by
  have hstore {v : Option UInt8} {i : ℕ} {checksum c : Bytes}
      (h : checksumLoop.storeByte v i checksum = .ok c) : c.length = checksum.length := by
    cases v with
    | none => cases h
    | some v =>
      rw [checksumLoop.storeByte] at h
      split_ifs at h
      rw [← Except.ok.inj h, List.length_set]
  induction text using pieces.induct generalizing i checksum with
  | case1 => rw [Except.ok.inj h]
  | case2 a => exact hstore h
  | case3 a b rest ih =>
    rw [checksumLoop] at h
    cases hbyte : checksumLoop.storeByte (stoi16 [a, b]) i checksum with
    | error e =>
      rw [hbyte] at h
      cases h
    | ok checksum' =>
      rw [hbyte] at h
      exact (ih h).trans (hstore hbyte)

/-- The loop stores the bytes of a hexadecimal form one after another. -/
theorem checksumLoop_hexText (bs : Bytes) (i : ℕ) (checksum : Bytes)
    (hlen : checksum.length = 16) (hroom : i + bs.length ≤ 16) :
    checksumLoop (hexText bs) i checksum =
      .ok (checksum.take i ++ bs ++ checksum.drop (i + bs.length)) := by
  induction bs generalizing i checksum with
  | nil => simp [hexText, checksumLoop]
  | cons b bs ih =>
    rw [List.length_cons] at hroom
    have htext : hexText (b :: bs) =
        lowerDigit (b.toNat / 16) :: lowerDigit (b.toNat % 16) :: hexText bs := rfl
    have hstore : checksumLoop.storeByte (some b) i checksum = .ok (checksum.set i b) :=
      if_pos (by omega)
    rw [htext, checksumLoop, stoi16_hexText, hstore]
    refine (ih (i + 1) (checksum.set i b) (by simpa using hlen) (by omega)).trans ?_
    have htake : (checksum.set i b).take (i + 1) = checksum.take i ++ [b] := by
      rw [List.take_add_one, List.take_set_of_le (Nat.le_refl i), List.getElem?_set_self (by omega)]
      rfl
    rw [htake, List.drop_set_of_lt (by omega), List.length_cons]
    simp [Nat.add_comm, Nat.add_left_comm]

/-- The part of a text before its first blank. -/
def beforeBlank (text : Bytes) : Bytes := text.takeWhile (· ≠ 0x20)

/-- **The lower-case form of a digest is decoded** to the digest. -/
theorem calcFileChecksum_hexText {digest checksum : Bytes} (hdigest : digest.length = 16)
    (hlen : checksum.length = 16) (hblank : 0x20 ∈ text)
    (htext : beforeBlank text = hexText digest) :
    calcFileChecksum (some text) checksum = .ok digest := by
  have htext' : text.takeWhile (· ≠ 0x20) = hexText digest := htext
  rw [calcFileChecksum, if_pos hblank, htext', checksumLoop_hexText digest 0 checksum hlen
    (by omega)]
  simp [hdigest, hlen]

/-- When the parser ends without a fault. -/
theorem calcFileChecksum_isOk_iff (text checksum : Bytes) :
    (∃ c, calcFileChecksum (some text) checksum = .ok c) ↔
      0x20 ∈ text ∧ Converts (beforeBlank text) := by
  rw [calcFileChecksum]
  by_cases hblank : 0x20 ∈ text
  · have hloop := checksumLoop_isOk_iff (beforeBlank text) 0 checksum (by omega)
    rw [length_pieces] at hloop
    rw [if_pos hblank, and_iff_right hblank]
    refine hloop.trans (and_congr_left fun _ => ?_)
    omega
  · rw [if_neg hblank]
    exact iff_of_false (by simp) fun hcond => hblank hcond.1

theorem calcFileChecksum_length {text : Option Bytes} {checksum c : Bytes}
    (h : calcFileChecksum text checksum = .ok c) : c.length = checksum.length := by
  cases text with
  | none => cases h
  | some text =>
    rw [calcFileChecksum] at h
    split_ifs at h
    exact checksumLoop_length h

/-! ### The routine -/

theorem compareLoop_eq {chsum optionRecord : Bytes} (h : chsum.length = optionRecord.length) :
    compareLoop chsum optionRecord = if chsum = optionRecord then 0 else 1 := by
  induction chsum generalizing optionRecord with
  | nil =>
    rw [List.length_nil] at h
    rw [List.eq_nil_of_length_eq_zero h.symm]
    rfl
  | cons c chsum ih =>
    cases optionRecord with
    | nil => cases h
    | cons o optionRecord =>
      rw [compareLoop, ih (Nat.succ.inj h)]
      by_cases hc : c = o <;> simp [hc]

/-- A request for the routine `0x0202`. -/
def Request.IsChecksum (q : Request) : Prop :=
  q.buf 0 = kSIDRoutineControl ∧ 4 ≤ q.len ∧ word16 (q.buf 2) (q.buf 3) = 0x0202

instance (q : Request) : Decidable q.IsChecksum := inferInstanceAs (Decidable (_ ∧ _))

/-- The sub-function of a request, without the suppress bit. -/
def Request.controlType (q : Request) : UInt8 := q.buf 1 &&& 0x7F

/-- The option record of a request. -/
def Request.optionRecord (q : Request) : Bytes := bytesAt q.buf 4 (q.len - 4)

/-- The request starts the routine with an option record of 16 bytes. -/
def Request.StartsChecksum (q : Request) : Prop :=
  q.controlType = kStartRoutine ∧ q.optionRecord.length = 16

instance (q : Request) : Decidable q.StartsChecksum := inferInstanceAs (Decidable (_ ∧ _))

/-- **The outcomes of a request for the routine**: it is refused if it does not start the routine
with 16 bytes; otherwise the text is parsed, and the comparison is appended to the answer. -/
theorem routineControl0x31_checksum (B : Build) (env : Env) (s : Sys) (hq : q.IsChecksum) :
    (¬q.StartsChecksum ∧ ∃ err u, err ≠ kPositiveResponse ∧
        routineControl0x31 B env (s.receive B env q) = .ok (err, u)) ∨
      (q.StartsChecksum ∧ ∃ e, calcFileChecksum env.md5Text env.chsumInit.toList = .error e ∧
        routineControl0x31 B env (s.receive B env q) = .error e) ∨
      (q.StartsChecksum ∧ ∃ (chsum : Bytes) (u : Sys),
        calcFileChecksum env.md5Text env.chsumInit.toList = .ok chsum ∧
        u.srv.r.sendBuf = [responseSidOf kSIDRoutineControl, kStartRoutine, 0x02, 0x02] ∧
        u.srv.r.sendBufSize = B.udsTpMtu.toNat ∧
        routineControl0x31 B env (s.receive B env q) = .ok (kPositiveResponse,
          (u.safeCopy [compareLoop chsum q.optionRecord]).2)) := by
  obtain ⟨-, hlen, hid⟩ := hq
  have hoption : (s.receive B env q).srv.r.recvSlice 4 (subSize16 q.len 4) = q.optionRecord := by
    have hle := q.len_le
    rw [subSize16, subSize_of_le hlen, Nat.mod_eq_of_lt (by omega)]
    rfl
  unfold routineControl0x31
  rw [receive_recvLen, receive_recvBuf, if_neg (Nat.not_lt.2 hlen), hoption, hid]
  have htype : q.buf 1 &&& 0x7F = q.controlType := rfl
  rw [htype]
  dsimp only
  -- the process when the handler is called
  set u := ((s.receive B env q).setSend [responseSidOf kSIDRoutineControl, q.controlType,
    ((0x0202 : UInt16) >>> 8).toUInt8, (0x0202 : UInt16).toUInt8]).emitEvent
      (.routineCtrl q.controlType 0x0202 q.optionRecord) with hu
  by_cases hstart : q.controlType = kStartRoutine
  · rw [if_pos (.inl hstart)]
    unfold handleRoutineCtrl
    rw [if_pos rfl, if_neg (not_not.2 hstart)]
    by_cases hsixteen : q.optionRecord.length = 16
    · rw [if_neg (not_not.2 hsixteen)]
      dsimp only
      cases hchsum : calcFileChecksum env.md5Text env.chsumInit.toList with
      | error e => exact .inr (.inl ⟨⟨hstart, hsixteen⟩, e, rfl, rfl⟩)
      | ok chsum =>
        refine .inr (.inr ⟨⟨hstart, hsixteen⟩, chsum,
          u.emit (.popen (ascii ['m', 'd', '5', 's', 'u', 'm', ' '] ++ u.app.fwFilename)),
          rfl, ?_, ?_, ?_⟩)
        · rw [hu, hstart]
          rfl
        · rfl
        · exact if_neg (not_not.2 rfl)
    · rw [if_pos hsixteen]
      exact .inl ⟨fun hstarts => hsixteen hstarts.2, _, _, by simp, if_pos (by simp)⟩
  · by_cases htypes : q.controlType = kStartRoutine ∨ q.controlType = kStopRoutine ∨
        q.controlType = kRequestRoutineResults
    · rw [if_pos htypes]
      unfold handleRoutineCtrl
      rw [if_pos rfl, if_pos hstart]
      exact .inl ⟨fun hstarts => hstart hstarts.1, _, _, by simp, if_pos (by simp)⟩
    · rw [if_neg htypes]
      exact .inl ⟨fun hstarts => hstart hstarts.1, _, _, by simp, rfl⟩

/-- **The routine decides the equality of the digests.** If `md5sum` prints the lower-case form of a
digest before the first blank, then in every reachable state the digest is decoded from the text,
and a request for the routine is answered: with the status 0 if it starts the routine with the
digest, with the status 1 if it starts it with 16 other bytes, and negatively otherwise. -/
theorem checksum_decides_equality (hB : B.udsTpMtu = 65535) {tr : List Exchange}
    (hrun : ServerRun B tr s) {digest : Bytes} (hdigest : digest.length = 16)
    (hprinted : env.md5Text = some text) (hblank : 0x20 ∈ text)
    (htext : beforeBlank text = hexText digest) (hq : q.IsChecksum) :
    (∀ checksum : Bytes, checksum.length = 16 →
        calcFileChecksum (some text) checksum = .ok digest) ∧
      ∃ x t, ServerStep B s x t ∧ x.req = q ∧ x.env = env ∧
        if q.StartsChecksum then
          x.code = kPositiveResponse ∧
            x.sent = if q.buf 1 &&& 0x80 = 0 then
                [0x71, 0x01, 0x02, 0x02, if q.optionRecord = digest then 0 else 1]
              else []
        else x.code ≠ kPositiveResponse ∧ x.sent = [0x7F, 0x31, x.code.toByte] := by
  have hdecodes (checksum : Bytes) (hlen : checksum.length = 16) :
      calcFileChecksum (some text) checksum = .ok digest :=
    calcFileChecksum_hexText hdigest hlen hblank htext
  have hchsum : calcFileChecksum env.md5Text env.chsumInit.toList = .ok digest := by
    rw [hprinted]
    exact hdecodes _ Vector.length_toList
  have hservice : getServiceForSID (q.buf 0) = some .routineControl := by
    rw [hq.1]
    rfl
  have hs := ServerRun.settings hrun
  refine ⟨hdecodes, ?_⟩
  have hcases := routineControl0x31_checksum B env s hq
  have hok : ∃ r, routineControl0x31 B env (s.receive B env q) = .ok r := by
    rcases hcases with ⟨-, err, u, -, heq⟩ | ⟨-, e, herror, -⟩ | ⟨-, chsum, u, -, -, -, heq⟩
    · exact ⟨_, heq⟩
    · cases hchsum.symm.trans herror
    · exact ⟨_, heq⟩
  obtain ⟨⟨c, t⟩, hprocess⟩ := (processRequest_isOk_iff hservice).2 hok
  have hstep : ServerStep B s ⟨q, env, c, t.srv.r.sendBuf⟩ t := ⟨hprocess, rfl⟩
  refine ⟨_, t, hstep, rfl, rfl, ?_⟩
  obtain ⟨u, hcall, -⟩ := hstep.call_sent hs hservice
  have hcall' : routineControl0x31 B env (s.receive B env q) = .ok (c, u) := hcall
  rcases hcases with ⟨hstarts, err, v, herr, heq⟩ | ⟨-, e, herror, -⟩ |
    ⟨hstarts, chsum, v, hchsum', hbegun, hsize, heq⟩
  · obtain ⟨rfl, -⟩ := Prod.mk.inj (Except.ok.inj (hcall'.symm.trans heq))
    rw [if_neg hstarts]
    refine ⟨herr, ?_⟩
    obtain ⟨form, hform⟩ := hstep.hasForm hs hB
    cases form with
    | positive => exact absurd hform.1 herr
    | suppressed => exact absurd hform.1 herr
    | negative => exact hform.2.trans (by rw [hq.1])
  · cases hchsum.symm.trans herror
  · obtain ⟨rfl, rfl⟩ := Prod.mk.inj (Except.ok.inj (hcall'.symm.trans heq))
    obtain rfl : digest = chsum := Except.ok.inj (hchsum.symm.trans hchsum')
    rw [if_pos hstarts]
    refine ⟨rfl, (hstep.sent_of_positive hs hservice rfl hcall rfl).trans ?_⟩
    have hsize' : v.srv.r.sendBufSize = 65535 := hsize.trans (congrArg UInt16.toNat hB)
    have hstatus : compareLoop digest q.optionRecord =
        if q.optionRecord = digest then 0 else 1 := by
      rw [compareLoop_eq (hdigest.trans hstarts.2.symm), if_congr eq_comm rfl rfl]
    rw [Sys.safeCopy_status _ (by simp [hbegun, hsize']) (by simp [hbegun]), hbegun, hstatus]
    rfl

/-- A request to compare a digest. -/
def checksumRequest (digest : Vector UInt8 16) : Request :=
  .ofBytes ([0x31, 0x01, 0x02, 0x02] ++ digest.toList) (by simp) fun _ => 0

/-- An environment in which `md5sum` prints a text. -/
def Env.printing (text : Bytes) : Env := { Env.fair 0 with md5Text := some text }

/-- The digest of the file is recognised. -/
theorem checksum_decides_equality_ab : ∃ (s t : Sys) (x : Exchange),
    ServerStep ⟨65535, .test⟩ s x t ∧ x.req = checksumRequest (.replicate 16 0xAB) ∧
      x.env.md5Text = some (hexText (List.replicate 16 0xAB) ++ [0x20, 0x20, 0x2D]) ∧
      x.sent = [0x71, 0x01, 0x02, 0x02, 0x00] := by
  have hrun : ServerRun ⟨65535, .test⟩ [] (udsServerInit (.fair 0) fun _ => none) :=
    .start ⟨_, _, rfl⟩
  have hdigest : (List.replicate 16 (0xAB : UInt8)).length = 16 := rfl
  have hprinted (text : Bytes) : (Env.printing text).md5Text = some text := rfl
  have hq : (checksumRequest (.replicate 16 0xAB)).IsChecksum := by decide
  obtain ⟨-, x, t, hstep, hreq, henv, hanswer⟩ := checksum_decides_equality rfl hrun hdigest
    (hprinted (hexText (List.replicate 16 0xAB) ++ [0x20, 0x20, 0x2D])) (by decide) (by decide) hq
  rw [if_pos (by decide)] at hanswer
  refine ⟨_, t, x, hstep, hreq, ?_, hanswer.2.trans (by decide)⟩
  rw [henv]
  rfl

/-! ### Other texts -/

/-- `calcFileChecksum` with its result, which is always zero. -/
def checksumReturn (text : Option Bytes) (checksum : Bytes) : Except Fault (ℕ × Bytes) :=
  (calcFileChecksum text checksum).map fun c => (0, c)

/-- The text starts with 32 hexadecimal digits. -/
def StartsWithDigest (text : Bytes) : Prop :=
  32 ≤ text.length ∧ ∀ c ∈ text.take 32, (hexDigit c).isSome = true

/-- A text is parsed without a fault, and a failure is reported if it does not start with a
digest. -/
def SurvivesText (text checksum : Bytes) : Prop :=
  ∃ r c, checksumReturn (some text) checksum = .ok (r, c) ∧ (¬StartsWithDigest text → r ≠ 0)

theorem ne_blank_of_hexDigit {c : UInt8} (h : (hexDigit c).isSome = true) : c ≠ 0x20 := by
  rintro rfl
  exact absurd h (by decide)

/-- Digits are converted, two at a time. -/
theorem isSome_of_pieces {text p : Bytes} (htext : ∀ c ∈ text, (hexDigit c).isSome = true)
    (heven : text.length % 2 = 0) (hp : p ∈ pieces text) : (stoi16 p).isSome = true := by
  fun_induction pieces text with
  | case1 => cases hp
  | case2 => cases heven
  | case3 a b rest ih =>
    rcases List.mem_cons.1 hp with rfl | hp
    · obtain ⟨m, ha⟩ := Option.isSome_iff_exists.1 (htext a (by simp))
      obtain ⟨n, hb⟩ := Option.isSome_iff_exists.1 (htext b (by simp))
      rw [stoi16_digits ha hb]
      rfl
    · rw [List.length_cons, List.length_cons] at heven
      exact ih (fun c hc => htext c (by simp [hc])) (by omega) hp

/-- A text that starts with a digest goes on with its first blank, or before it. -/
theorem beforeBlank_of_startsWithDigest (h : StartsWithDigest text) :
    beforeBlank text = text.take 32 ++ beforeBlank (text.drop 32) := by
  have hdigits : ∀ c ∈ text.take 32, decide (c ≠ 0x20) = true := fun c hc =>
    decide_eq_true (ne_blank_of_hexDigit (h.2 c hc))
  unfold beforeBlank
  nth_rewrite 1 [← List.take_append_drop 32 text]
  rw [List.takeWhile_append_of_pos hdigits]

/-- A text whose first blank has nothing before it starts with the blank. -/
theorem head?_eq_blank (hblank : 0x20 ∈ text) (hnone : beforeBlank text = []) :
    text.head? = some 0x20 := by
  cases text with
  | nil => cases hblank
  | cons c rest =>
    rw [beforeBlank, List.takeWhile_cons] at hnone
    by_cases hc : c = 0x20
    · rw [hc]
      rfl
    · simp [hc] at hnone

/-- The result is zero whenever there is one, so that no failure is ever reported. -/
theorem survivesText_iff_isOk (text checksum : Bytes) : SurvivesText text checksum ↔
    (∃ c, calcFileChecksum (some text) checksum = .ok c) ∧ StartsWithDigest text := by
  unfold SurvivesText checksumReturn
  constructor
  · rintro ⟨r, c, hc, hfails⟩
    cases hcalc : calcFileChecksum (some text) checksum with
    | error e =>
      rw [hcalc] at hc
      cases hc
    | ok c' =>
      rw [hcalc] at hc
      cases hc
      exact ⟨⟨_, rfl⟩, by_contra fun hstarts => hfails hstarts rfl⟩
  · rintro ⟨⟨c, hc⟩, hstarts⟩
    exact ⟨0, c, by rw [hc]; rfl, fun hnot => absurd hstarts hnot⟩

/-- **When a text is survived.** -/
theorem survivesText_iff (text checksum : Bytes) :
    SurvivesText text checksum ↔ StartsWithDigest text ∧ text[32]? = some 0x20 := by
  rw [survivesText_iff_isOk, calcFileChecksum_isOk_iff, and_comm]
  refine and_congr_right fun hstarts => ?_
  have hbefore := beforeBlank_of_startsWithDigest hstarts
  have htake : (text.take 32).length = 32 := List.length_take_of_le hstarts.1
  have hsplit : text.take 32 ++ text.drop 32 = text := List.take_append_drop 32 text
  have hget : text[32]? = (text.drop 32).head? := by
    rw [List.head?_drop]
  rw [hget]
  constructor
  · rintro ⟨hblank, hlen, -⟩
    have hnone : beforeBlank (text.drop 32) = [] := by
      rw [hbefore, List.length_append, htake] at hlen
      exact List.eq_nil_of_length_eq_zero (by omega)
    rw [← hsplit, List.mem_append] at hblank
    have hdrop : 0x20 ∈ text.drop 32 := hblank.resolve_left fun hmem =>
      ne_blank_of_hexDigit (hstarts.2 _ hmem) rfl
    exact head?_eq_blank hdrop hnone
  · intro hhead
    obtain ⟨rest, hrest⟩ := List.head?_eq_some_iff.1 hhead
    have hnone : beforeBlank (text.drop 32) = [] := by
      rw [hrest]
      rfl
    rw [hnone, List.append_nil] at hbefore
    refine ⟨?_, ?_, fun p hp => ?_⟩
    · rw [← hsplit, hrest]
      simp
    · rw [hbefore, htake]
    · rw [hbefore] at hp
      exact isSome_of_pieces hstarts.2 (by rw [htake]) hp

/-- When a request for the routine leaves the process running. -/
theorem exists_checksumStep_iff (hq : q.IsChecksum) :
    (∃ x t, ServerStep B s x t ∧ x.req = q ∧ x.env = env) ↔
      (q.StartsChecksum → ∃ text, env.md5Text = some text ∧ 0x20 ∈ text ∧
        Converts (beforeBlank text)) := by
  have hservice : getServiceForSID (q.buf 0) = some .routineControl := by
    rw [hq.1]
    rfl
  have hstep : (∃ x t, ServerStep B s x t ∧ x.req = q ∧ x.env = env) ↔
      ∃ r, routineControl0x31 B env (s.receive B env q) = .ok r := by
    refine Iff.trans ?_ (processRequest_isOk_iff hservice)
    constructor
    · rintro ⟨x, t, ⟨hprocess, -⟩, rfl, rfl⟩
      exact ⟨_, hprocess⟩
    · rintro ⟨⟨c, t⟩, hprocess⟩
      exact ⟨⟨q, env, c, t.srv.r.sendBuf⟩, t, ⟨hprocess, rfl⟩, rfl, rfl⟩
  have hparsed : (∃ c, calcFileChecksum env.md5Text env.chsumInit.toList = .ok c) ↔
      ∃ text, env.md5Text = some text ∧ 0x20 ∈ text ∧ Converts (beforeBlank text) := by
    cases env.md5Text with
    | none => simp [calcFileChecksum]
    | some text =>
      rw [calcFileChecksum_isOk_iff]
      simp
  rw [hstep, ← hparsed]
  rcases routineControl0x31_checksum B env s hq with
    ⟨hstarts, err, u, -, heq⟩ | ⟨hstarts, e, herror, heq⟩ | ⟨-, chsum, u, hchsum, -, -, heq⟩
  · exact iff_of_true ⟨_, heq⟩ fun h => absurd h hstarts
  · rw [heq, herror]
    exact iff_of_false (by simp) fun h => by simpa using h hstarts
  · exact iff_of_true ⟨_, heq⟩ fun _ => ⟨_, hchsum⟩

/-- **When the routine survives what was printed.** A text is parsed without a fault, with a failure
reported if it does not start with a digest, if and only if it starts with a digest and a blank; and
in every state, reachable or not, a request for the routine leaves the process running if and only
if it does not start the comparison, or the text has a blank, and before it at most 32 characters of
which every two can be converted. -/
theorem survives_iff (hq : q.IsChecksum) :
    (∀ text checksum, SurvivesText text checksum ↔
        StartsWithDigest text ∧ text[32]? = some 0x20) ∧
      ((∃ x t, ServerStep B s x t ∧ x.req = q ∧ x.env = env) ↔
        (q.StartsChecksum → ∃ text, env.md5Text = some text ∧ 0x20 ∈ text ∧
          Converts (beforeBlank text))) :=
  ⟨survivesText_iff, exists_checksumStep_iff hq⟩

/-- The line that `md5sum` prints for a file. -/
def md5Line : Bytes := hexText (List.replicate 16 0xAB) ++ [0x20, 0x20, 0x2D]

/-- The line for a file is survived. -/
theorem survives_iff_line : SurvivesText md5Line (List.replicate 16 0) ∧
    ∃ x t, ServerStep ⟨65535, .test⟩ (udsServerInit (.fair 0) fun _ => none) x t ∧
      x.req = checksumRequest (.replicate 16 0) ∧ x.env = .printing md5Line := by
  have hq : (checksumRequest (.replicate 16 0)).IsChecksum := by decide
  have hline : StartsWithDigest md5Line ∧ md5Line[32]? = some 0x20 := by
    have hdigits : ((md5Line.take 32).all fun c => (hexDigit c).isSome) = true := by decide
    exact ⟨⟨by decide, List.all_eq_true.1 hdigits⟩, by decide⟩
  have hconverts : 0x20 ∈ md5Line ∧ Converts (beforeBlank md5Line) := by decide
  obtain ⟨htexts, hsteps⟩ := survives_iff hq
  exact ⟨(htexts _ _).2 hline, hsteps.2 fun _ => ⟨md5Line, rfl, hconverts⟩⟩

/-- What `md5sum` prints for a file that was named and is missing, nothing, ends the process: the
`RequestFileTransfer` that named the file could not open it. -/
theorem not_survives_missing_file : ¬∀ (B : Build) (tr : List Exchange) (s : Sys) (env : Env)
    (q : Request), ServerRun B tr s → q.IsChecksum → env.md5Text ≠ none →
      (s.app.fwFilename ≠ [] ∧ s.fs s.app.fwFilename = none) →
        ∃ x t, ServerStep B s x t ∧ x.req = q ∧ x.env = env := by
  intro hclaim
  obtain ⟨tr, s, hrun, hnamed, hmissing⟩ := exists_run_of_serve ⟨65535, .test⟩ (.fair 0)
    (fun _ => none) [({ Env.fair 0 with fopenFw := false }, addFileRequest 3)]
    (fun _ s => s.app.fwFilename ≠ [] ∧ s.fs s.app.fwFilename = none) (by decide +kernel)
  have hq : (checksumRequest (.replicate 16 0)).IsChecksum := by decide
  have hstep := hclaim _ _ _ (.printing []) _ hrun hq (by simp [Env.printing]) ⟨hnamed, hmissing⟩
  obtain ⟨text, htext, hblank, -⟩ := (exists_checksumStep_iff hq).1 hstep (by decide)
  cases htext
  cases hblank

end EcuUpgrade
