import EcuUpgrade.Transport.NoLoss
import Mathlib.Data.List.Induction

/-!
# The receive buffer of `DoIPTp`

The interface of `UDSTpHandle` asks that what `peek` returns does not change until `ack_recv` is
called. `ReceiveFromLibrary` stores every message that the DoIP library delivers, whether the one
before has been acknowledged or not and whether it fits into the buffer or not. This module takes
the three locked operations alone, in any order and with messages of any length.

## Main definitions

* `TpMembers`: the members of `DoIPTp`, with the operations on them.
* `TpRun`: sequences of calls.
* `KeepsContract`: what `iso14229.h` asks for.
* `Mail`: what the calls so far leave to be peeked at.

## Main results

* `DoIPTp.tpStep_members`: on messages that fit, the operations are those of `DoIPTp`.
* `bounded_iff_fits`, `stable_iff_undisturbed`: when the clauses of the contract hold.
* `keepsContract_iff`: **the contract is kept if and only if every message fits and no other message
  arrives between the peeks at one.**
-/

namespace EcuUpgrade

open Runs

/-! ### The operations -/

/-- The members of `DoIPTp` that the two threads share; `recvBuf` is the memory from `recv_buf_` on,
which has room for 65535 bytes. -/
structure TpMembers where
  recvBuf : ℕ → UInt8
  recvLen : ℕ
  ackedLen : ℕ

namespace TpMembers

/-- The members after start-up. -/
def initial : TpMembers := ⟨fun _ => 0, 0, 0⟩

/-- `ReceiveFromLibrary`. A message that does not fit is written over the members behind the buffer,
and `acked_len_` is one of them: it is `overwritten` then. -/
def receiveFromLibrary (tp : TpMembers) (data : Bytes) (overwritten : ℕ) : TpMembers where
  recvBuf i := data.getD i (tp.recvBuf i)
  recvLen := data.length
  ackedLen := if data.length ≤ 65535 then tp.ackedLen else overwritten

/-- `DoipTpPeek`: the returned length, and the members after it. -/
def doipTpPeek (tp : TpMembers) : ℕ × TpMembers :=
  if tp.recvLen = tp.ackedLen then (tp.recvLen, tp)
  else if tp.ackedLen < tp.recvLen then (tp.recvLen, { tp with ackedLen := tp.recvLen })
  else (0, tp)

/-- `DoipTpAckRecv`. -/
def doipTpAckRecv (tp : TpMembers) : TpMembers := { tp with recvLen := 0, ackedLen := 0 }

end TpMembers

/-- A call of an operation; a peek with the length it returns and the bytes it points to. -/
inductive TpCall
  | receive (data : Bytes)
  | peek (len : ℕ) (bytes : Bytes)
  | ackRecv

/-- The effect of a call. -/
def TpStep (tp : TpMembers) : TpCall → TpMembers → Prop
  | .receive data, tp' => ∃ overwritten, tp' = tp.receiveFromLibrary data overwritten
  | .peek len bytes, tp' => tp.doipTpPeek = (len, tp') ∧ bytes = bytesAt tp'.recvBuf 0 len
  | .ackRecv, tp' => tp' = tp.doipTpAckRecv

/-- A sequence of calls. -/
abbrev TpRun : List TpCall → TpMembers → Prop := Run (· = .initial) TpStep

variable {tp tp' : TpMembers} {tr : List TpCall} {e : TpCall} {data bytes m : Bytes} {len : ℕ}

/-- The members of the transport. -/
def DoIPTp.members (tp : DoIPTp) : TpMembers := ⟨tp.recvBuf, tp.recvLen, tp.ackedLen⟩

/-- **On messages that fit, the operations are those of `DoIPTp`.** -/
theorem DoIPTp.tpStep_members (tp : DoIPTp) :
    (∀ data h, TpStep tp.members (.receive data) (tp.receiveFromLibrary data h).members) ∧
      TpStep tp.members (.peek tp.doipTpPeek.1 (bytesAt tp.recvBuf 0 tp.doipTpPeek.1))
        tp.doipTpPeek.2.members ∧
      TpStep tp.members .ackRecv tp.doipTpAckRecv.members := by
  refine ⟨fun data h => ⟨0, ?_⟩, ?_, rfl⟩
  · simp [members, receiveFromLibrary, TpMembers.receiveFromLibrary, h]
  · unfold TpStep DoIPTp.doipTpPeek TpMembers.doipTpPeek members
    dsimp only
    split_ifs <;> exact ⟨rfl, rfl⟩

/-! ### The contract -/

/-- The call is a peek. -/
def TpCall.IsPeek (e : TpCall) : Prop := ∃ len bytes, e = .peek len bytes

/-- The call receives a message. -/
def TpCall.IsReceive (e : TpCall) : Prop := ∃ data, e = .receive data

/-- A peek returned a message of `len` bytes, and there was no acknowledgement since then. -/
def Returned (tr : List TpCall) (len : ℕ) (bytes : Bytes) : Prop :=
  0 < len ∧ Since (· = .peek len bytes) (· = .ackRecv) tr

/-- A peek returns the message that was returned before, if there was one. -/
def StableAt (tr : List TpCall) (e : TpCall) : Prop :=
  ∀ len' bytes', e = .peek len' bytes' → ∀ len bytes, Returned tr len bytes →
    len' = len ∧ bytes' = bytes

/-- A peek returns nothing, if no message was received since an acknowledgement. -/
def AckedAt (tr : List TpCall) (e : TpCall) : Prop :=
  ∀ len bytes, e = .peek len bytes → Since (· = .ackRecv) TpCall.IsReceive tr → len = 0

/-- **The contract of the transport** in a sequence of calls. -/
structure KeepsContract (tr : List TpCall) : Prop where
  bounded : ∀ pre, pre <+: tr → ∀ tp, TpRun pre tp → tp.recvLen ≤ 65535
  stable : Everywhere StableAt tr
  acked : Everywhere AckedAt tr

/-! ### What there is to be peeked at -/

/-- The last message that was received since the last acknowledgement, empty if there was none, and
the message that was there at the first peek that found one. -/
structure Mail where
  last : Bytes
  peeked : Option Bytes

/-- A call changes what there is to be peeked at. -/
def Mail.after (b : Mail) : TpCall → Mail
  | .receive data => { b with last := data }
  | .peek _ _ => if b.peeked = none ∧ b.last ≠ [] then { b with peeked := some b.last } else b
  | .ackRecv => ⟨[], none⟩

/-- What the calls so far leave to be peeked at. -/
def mail (tr : List TpCall) : Mail := tr.foldl Mail.after ⟨[], none⟩

theorem mail_snoc (tr : List TpCall) (e : TpCall) : mail (tr ++ [e]) = (mail tr).after e := by
  simp [mail]

/-- Every message fits into the buffer. -/
def Fits (tr : List TpCall) : Prop := ∀ data, .receive data ∈ tr → data.length ≤ 65535

/-- A peek finds the message that was there at the first peek. -/
def UndisturbedAt (tr : List TpCall) (e : TpCall) : Prop :=
  e.IsPeek → ∀ m, (mail tr).peeked = some m → (mail tr).last = m

/-! ### Lengths -/

/-- **The buffer holds the last message**, whatever was received. -/
theorem TpRun.holds_last (h : TpRun tr tp) :
    tp.recvLen = (mail tr).last.length ∧ bytesAt tp.recvBuf 0 tp.recvLen = (mail tr).last := by
  refine Run.invariant (P := fun tr tp => tp.recvLen = (mail tr).last.length ∧
    bytesAt tp.recvBuf 0 tp.recvLen = (mail tr).last) ?_ ?_ h
  · rintro tp rfl
    exact ⟨rfl, rfl⟩
  · rintro tr tp e tp' - ⟨hlen, hbytes⟩ hstep
    rw [mail_snoc]
    cases e with
    | receive data =>
      obtain ⟨overwritten, rfl⟩ := hstep
      exact ⟨rfl, bytesAt_getD data tp.recvBuf⟩
    | peek len bytes =>
      have hsame : tp'.recvBuf = tp.recvBuf ∧ tp'.recvLen = tp.recvLen := by
        obtain ⟨hpeek, -⟩ := hstep
        obtain rfl : tp.doipTpPeek.2 = tp' := congrArg Prod.snd hpeek
        unfold TpMembers.doipTpPeek
        split_ifs <;> exact ⟨rfl, rfl⟩
      have hlast : ((mail tr).after (.peek len bytes)).last = (mail tr).last := by
        unfold Mail.after
        split_ifs <;> rfl
      rw [hsame.1, hsame.2, hlast]
      exact ⟨hlen, hbytes⟩
    | ackRecv =>
      obtain rfl : tp' = tp.doipTpAckRecv := hstep
      exact ⟨rfl, rfl⟩

/-- The last message is one that was received. -/
theorem mem_of_last (tr : List TpCall) :
    (mail tr).last = [] ∨ .receive (mail tr).last ∈ tr := by
  induction tr using List.reverseRecOn with
  | nil => exact .inl rfl
  | append_singleton tr e ih =>
    have hkeep (hlast : (mail (tr ++ [e])).last = (mail tr).last) :
        (mail (tr ++ [e])).last = [] ∨ .receive (mail (tr ++ [e])).last ∈ tr ++ [e] := by
      rw [hlast]
      exact ih.imp_right fun hmem => List.mem_append_left _ hmem
    rw [mail_snoc] at hkeep ⊢
    cases e with
    | receive data => exact .inr (by simp [Mail.after])
    | peek len bytes =>
      refine hkeep ?_
      unfold Mail.after
      split_ifs <;> rfl
    | ackRecv => exact .inl rfl

/-- **The length stays in the bounds of the buffer if and only if every message fits.** -/
theorem bounded_iff_fits (h : TpRun tr tp) :
    (∀ pre, pre <+: tr → ∀ tp, TpRun pre tp → tp.recvLen ≤ 65535) ↔ Fits tr := by
  constructor
  · intro hbounded data hdata
    obtain ⟨pre, post, rfl⟩ := List.append_of_mem hdata
    have hsplit : pre ++ .receive data :: post = (pre ++ [.receive data]) ++ post := by simp
    rw [hsplit] at h hbounded
    obtain ⟨u, hu, -⟩ := Run.append_iff.1 h
    have hlen := (TpRun.holds_last hu).1
    rw [mail_snoc] at hlen
    exact (Nat.le_of_eq hlen.symm).trans (hbounded _ (List.prefix_append _ _) u hu)
  · intro hfits pre hpre u hu
    rw [(TpRun.holds_last hu).1]
    rcases mem_of_last pre with hlast | hmem
    · rw [hlast]
      exact Nat.zero_le _
    · exact hfits _ (hpre.subset hmem)

/-! ### Acknowledgements -/

/-- **After an acknowledgement, a peek returns nothing** until a message is received. -/
theorem TpRun.acked (h : TpRun tr tp) : Everywhere AckedAt tr := by
  have hempty {tr : List TpCall} {tp : TpMembers} (h : TpRun tr tp) :
      Since (· = .ackRecv) TpCall.IsReceive tr → tp.recvLen = 0 ∧ tp.ackedLen = 0 := by
    refine Run.invariant (P := fun tr (tp : TpMembers) => Since (· = .ackRecv) TpCall.IsReceive tr →
      tp.recvLen = 0 ∧ tp.ackedLen = 0) ?_ ?_ h
    · exact fun tp _ hsince => absurd hsince (not_since_nil _ _)
    · rintro tr tp e tp' - ih hstep hsince
      rcases since_snoc.1 hsince with rfl | ⟨hnot, hsince⟩
      · obtain rfl : tp' = tp.doipTpAckRecv := hstep
        exact ⟨rfl, rfl⟩
      · obtain ⟨hlen, hacked⟩ := ih hsince
        cases e with
        | receive data => exact absurd ⟨data, rfl⟩ hnot
        | peek len bytes =>
          obtain rfl : tp.doipTpPeek.2 = tp' := congrArg Prod.snd hstep.1
          have hsame : tp.recvLen = tp.ackedLen := hlen.trans hacked.symm
          rw [TpMembers.doipTpPeek, if_pos hsame]
          exact ⟨hlen, hacked⟩
        | ackRecv =>
          obtain rfl : tp' = tp.doipTpAckRecv := hstep
          exact ⟨rfl, rfl⟩
  refine Run.everywhere (fun tr tp e tp' hrun hstep => ?_) h
  rintro len bytes rfl hsince
  obtain ⟨hlen, hacked⟩ := hempty hrun hsince
  have hsame : tp.recvLen = tp.ackedLen := hlen.trans hacked.symm
  obtain ⟨hpeek, -⟩ := hstep
  rw [TpMembers.doipTpPeek, if_pos hsame] at hpeek
  exact (congrArg Prod.fst hpeek).symm.trans hlen

/-! ### Peeks -/

/-- The messages that were returned are those that a peek found, as long as these were not
disturbed. -/
structure TracksPeeks (tr : List TpCall) (tp : TpMembers) : Prop where
  ackedLen : tp.ackedLen = ((mail tr).peeked.getD []).length
  returned : ∀ len bytes, Returned tr len bytes ↔
    (mail tr).peeked = some bytes ∧ len = bytes.length

theorem peeked_ne_nil (tr : List TpCall) : (mail tr).peeked ≠ some [] := by
  induction tr using List.reverseRecOn with
  | nil => simp [mail]
  | append_singleton tr e ih =>
    rw [mail_snoc]
    cases e with
    | receive data => exact ih
    | peek len bytes =>
      unfold Mail.after
      split_ifs with hfirst
      · simpa using hfirst.2
      · exact ih
    | ackRecv => simp [Mail.after]

theorem returned_snoc : Returned (tr ++ [e]) len bytes ↔
    0 < len ∧ e = .peek len bytes ∨ e ≠ .ackRecv ∧ Returned tr len bytes := by
  unfold Returned
  rw [since_snoc]
  tauto

/-- The first peek that finds a message returns it. -/
theorem TracksPeeks.peek_first (h : TracksPeeks tr tp) (hrun : TpRun tr tp)
    (hnone : (mail tr).peeked = none)
    (hstep : TpStep tp (.peek len bytes) tp') :
    len = (mail tr).last.length ∧ bytes = (mail tr).last ∧ tp'.ackedLen = len := by
  obtain ⟨hlen, hbytes⟩ := TpRun.holds_last hrun
  have hacked : tp.ackedLen = 0 := by
    rw [h.ackedLen, hnone]
    rfl
  obtain ⟨hpeek, rfl⟩ := hstep
  unfold TpMembers.doipTpPeek at hpeek
  split_ifs at hpeek with heq hlt
  · obtain ⟨rfl, rfl⟩ := Prod.mk.inj hpeek
    exact ⟨hlen, hbytes, heq.symm⟩
  · obtain ⟨rfl, rfl⟩ := Prod.mk.inj hpeek
    exact ⟨hlen, hbytes, rfl⟩
  · omega

/-- A further peek returns the same message if and only if it is still there. -/
theorem TracksPeeks.peek_again (h : TracksPeeks tr tp) (hrun : TpRun tr tp)
    (hm : (mail tr).peeked = some m)
    (hstep : TpStep tp (.peek len bytes) tp') :
    (len = m.length ∧ bytes = m ↔ (mail tr).last = m) ∧
      ((mail tr).last = m → tp'.ackedLen = m.length) := by
  obtain ⟨hlen, hbytes⟩ := TpRun.holds_last hrun
  have hacked : tp.ackedLen = m.length := by
    rw [h.ackedLen, hm]
    rfl
  have hpos : 0 < m.length := List.length_pos_iff.2 fun hnil => peeked_ne_nil tr (hnil ▸ hm)
  obtain ⟨hpeek, rfl⟩ := hstep
  unfold TpMembers.doipTpPeek at hpeek
  split_ifs at hpeek with heq hlt
  · obtain ⟨rfl, rfl⟩ := Prod.mk.inj hpeek
    rw [hbytes]
    exact ⟨and_iff_right (heq.trans hacked), fun _ => hacked⟩
  · obtain ⟨rfl, rfl⟩ := Prod.mk.inj hpeek
    have hne : tp.recvLen ≠ m.length := by omega
    have hlast : (mail tr).last ≠ m := fun hlast => hne (hlen.trans (congrArg List.length hlast))
    exact ⟨iff_of_false (fun hsame => hne hsame.1) hlast, fun hsame => absurd hsame hlast⟩
  · obtain ⟨rfl, rfl⟩ := Prod.mk.inj hpeek
    have hne : tp.recvLen ≠ m.length := by omega
    have hlast : (mail tr).last ≠ m := fun hlast => hne (hlen.trans (congrArg List.length hlast))
    exact ⟨iff_of_false (fun hsame => hpos.ne hsame.1) hlast, fun hsame => absurd hsame hlast⟩

theorem Mail.peeked_after (b : Mail) (len : ℕ) (bytes : Bytes) :
    (b.after (.peek len bytes)).peeked =
      if b.peeked = none ∧ b.last ≠ [] then some b.last else b.peeked := by
  unfold after
  split_ifs <;> rfl

/-- A peek before which none found a message. -/
theorem TracksPeeks.step_first (h : TracksPeeks tr tp) (hrun : TpRun tr tp)
    (hnone : (mail tr).peeked = none)
    (hstep : TpStep tp (.peek len bytes) tp') :
    StableAt tr (.peek len bytes) ∧ TracksPeeks (tr ++ [.peek len bytes]) tp' := by
  obtain ⟨rfl, rfl, hacked⟩ := h.peek_first hrun hnone hstep
  have hreturned (l : ℕ) (b : Bytes) : ¬Returned tr l b := by
    rw [h.returned, hnone]
    simp
  refine ⟨fun _ _ _ l b hret => absurd hret (hreturned l b), ?_, fun l b => ?_⟩
  · rw [mail_snoc, Mail.peeked_after, hnone, hacked]
    by_cases hempty : (mail tr).last = [] <;> simp [hempty]
  · rw [mail_snoc, Mail.peeked_after, hnone, returned_snoc]
    by_cases hempty : (mail tr).last = []
    · rw [if_neg fun hcond => hcond.2 hempty]
      refine iff_of_false ?_ (by simp)
      rintro (⟨hpos, heq⟩ | ⟨-, hret⟩)
      · cases heq
        rw [hempty] at hpos
        exact Nat.lt_irrefl 0 hpos
      · exact hreturned l b hret
    · rw [if_pos ⟨rfl, hempty⟩]
      constructor
      · rintro (⟨-, heq⟩ | ⟨-, hret⟩)
        · cases heq
          exact ⟨rfl, rfl⟩
        · exact absurd hret (hreturned l b)
      · rintro ⟨heq, rfl⟩
        obtain rfl := Option.some.inj heq
        exact .inl ⟨List.length_pos_iff.2 hempty, rfl⟩

/-- A peek after one that found a message. -/
theorem TracksPeeks.step_again (h : TracksPeeks tr tp) (hrun : TpRun tr tp)
    (hm : (mail tr).peeked = some m)
    (hstep : TpStep tp (.peek len bytes) tp') :
    (StableAt tr (.peek len bytes) ↔ (mail tr).last = m) ∧
      ((mail tr).last = m → TracksPeeks (tr ++ [.peek len bytes]) tp') := by
  obtain ⟨hiff, hacked⟩ := h.peek_again hrun hm hstep
  have hreturned (l : ℕ) (b : Bytes) : Returned tr l b ↔ m = b ∧ l = b.length := by
    rw [h.returned, hm, Option.some.injEq]
  constructor
  · rw [← hiff]
    constructor
    · exact fun hstable => hstable len bytes rfl m.length m ((hreturned _ _).2 ⟨rfl, rfl⟩)
    · rintro hsame len' bytes' ⟨⟩ l b hret
      obtain ⟨rfl, rfl⟩ := (hreturned l b).1 hret
      exact hsame
  · intro hlast
    obtain ⟨rfl, rfl⟩ := hiff.2 hlast
    have hafter : (mail (tr ++ [.peek bytes.length bytes])).peeked = some bytes := by
      rw [mail_snoc, Mail.peeked_after, hm, if_neg (by simp)]
    refine ⟨?_, fun l b => ?_⟩
    · rw [hafter, hacked hlast]
      rfl
    · rw [hafter, returned_snoc, hreturned, Option.some.injEq]
      constructor
      · rintro (⟨-, heq⟩ | ⟨-, hsame⟩)
        · cases heq
          exact ⟨rfl, rfl⟩
        · exact hsame
      · exact fun hsame => .inr ⟨by simp, hsame⟩

/-- **A call keeps the contract for peeks if and only if it is not disturbed.** -/
theorem TracksPeeks.step (h : TracksPeeks tr tp) (hrun : TpRun tr tp) (hstep : TpStep tp e tp')
    (hfits : ∀ data, e = .receive data → data.length ≤ 65535) :
    (StableAt tr e ↔ UndisturbedAt tr e) ∧ (UndisturbedAt tr e → TracksPeeks (tr ++ [e]) tp') := by
  have hother (hnot : ¬e.IsPeek) : StableAt tr e ∧ UndisturbedAt tr e :=
    ⟨fun len bytes heq => absurd ⟨len, bytes, heq⟩ hnot, fun hpeek => absurd hpeek hnot⟩
  cases e with
  | receive data =>
    obtain ⟨hstable, hundisturbed⟩ := hother (by rintro ⟨len, bytes, ⟨⟩⟩)
    refine ⟨iff_of_true hstable hundisturbed, fun _ => ?_⟩
    obtain ⟨overwritten, rfl⟩ := hstep
    refine ⟨?_, fun len bytes => ?_⟩
    · rw [mail_snoc]
      exact (if_pos (hfits data rfl)).trans h.ackedLen
    · rw [returned_snoc, mail_snoc, h.returned]
      simp [Mail.after]
  | peek len bytes =>
    cases hpeeked : (mail tr).peeked with
    | none =>
      obtain ⟨hstable, htracks⟩ := h.step_first hrun hpeeked hstep
      refine ⟨iff_of_true hstable fun _ m hm => ?_, fun _ => htracks⟩
      cases hpeeked.symm.trans hm
    | some m =>
      obtain ⟨hstable, htracks⟩ := h.step_again hrun hpeeked hstep
      have hundisturbed : UndisturbedAt tr (.peek len bytes) ↔ (mail tr).last = m := by
        constructor
        · exact fun hund => hund ⟨len, bytes, rfl⟩ m hpeeked
        · rintro hlast - m' hm'
          exact hlast.trans (Option.some.inj (hpeeked.symm.trans hm'))
      exact ⟨hstable.trans hundisturbed.symm, fun hund => htracks (hundisturbed.1 hund)⟩
  | ackRecv =>
    obtain ⟨hstable, hundisturbed⟩ := hother (by rintro ⟨len, bytes, ⟨⟩⟩)
    refine ⟨iff_of_true hstable hundisturbed, fun _ => ?_⟩
    obtain rfl : tp' = tp.doipTpAckRecv := hstep
    refine ⟨by rw [mail_snoc]; rfl, fun len bytes => ?_⟩
    rw [returned_snoc, mail_snoc]
    simp [Mail.after]

/-- **Peeks return the same until the acknowledgement if and only if they are not disturbed.** -/
theorem stable_iff_undisturbed (h : TpRun tr tp) (hfits : Fits tr) :
    Everywhere StableAt tr ↔ Everywhere UndisturbedAt tr := by
  have htracks : (Everywhere StableAt tr ↔ Everywhere UndisturbedAt tr) ∧
      (Everywhere UndisturbedAt tr → TracksPeeks tr tp) := by
    refine Run.invariant (P := fun tr tp => Fits tr →
      (Everywhere StableAt tr ↔ Everywhere UndisturbedAt tr) ∧
        (Everywhere UndisturbedAt tr → TracksPeeks tr tp)) ?_ ?_ h hfits
    · rintro tp rfl -
      refine ⟨iff_of_true (everywhere_nil _) (everywhere_nil _), fun _ => ⟨rfl, ?_⟩⟩
      intro len bytes
      exact iff_of_false (fun hret => not_since_nil _ _ hret.2) fun hsome => by cases hsome.1
    · intro tr tp e tp' hrun ih hstep hfits
      obtain ⟨hiff, htracks⟩ := ih fun data hdata => hfits data (List.mem_append_left _ hdata)
      have hlast (data : Bytes) (he : e = .receive data) : data.length ≤ 65535 :=
        hfits data (by simp [he])
      rw [everywhere_snoc, everywhere_snoc, hiff]
      refine ⟨and_congr_right fun hund => ((htracks hund).step hrun hstep hlast).1, ?_⟩
      exact fun hund => ((htracks hund.1).step hrun hstep hlast).2 hund.2
  exact htracks.1

/-- **When the transport keeps its contract.** In a sequence of calls, from start-up on and with
messages of any length, `recv_len_` stays in the bounds of the buffer, peeks return the same
message until it is acknowledged, and nothing after an acknowledgement until a message is received,
if and only if every message fits into the buffer, and every peek after one that found a message
finds the same message as the last one received, until the acknowledgement. -/
theorem keepsContract_iff (h : TpRun tr tp) :
    KeepsContract tr ↔ Fits tr ∧ Everywhere UndisturbedAt tr := by
  constructor
  · intro hkeeps
    have hfits : Fits tr := (bounded_iff_fits h).1 hkeeps.bounded
    exact ⟨hfits, (stable_iff_undisturbed h hfits).1 hkeeps.stable⟩
  · rintro ⟨hfits, hundisturbed⟩
    exact ⟨(bounded_iff_fits h).2 hfits, (stable_iff_undisturbed h hfits).2 hundisturbed, h.acked⟩

/-- A run that receives a message, peeks at it twice and acknowledges it. -/
theorem keepsContract_iff_two_peeks : KeepsContract [.receive [1], .peek 1 [1], .peek 1 [1],
    .ackRecv] := by
  have hrun : TpRun ([] ++ [.receive [1]] ++ [.peek 1 [1]] ++ [.peek 1 [1]] ++ [.ackRecv])
      ((TpMembers.initial.receiveFromLibrary [1] 0).doipTpPeek.2.doipTpPeek.2.doipTpAckRecv) :=
    .snoc (.snoc (.snoc (.snoc (.start rfl) ⟨0, rfl⟩) ⟨rfl, rfl⟩) ⟨rfl, rfl⟩) rfl
  refine (keepsContract_iff hrun).2 ⟨?_, ?_⟩
  · intro data hdata
    obtain rfl : data = [1] := by simpa using hdata
    decide
  · refine everywhere_snoc.2 ⟨everywhere_snoc.2 ⟨everywhere_snoc.2 ⟨everywhere_snoc.2
      ⟨everywhere_nil _, ?_⟩, ?_⟩, ?_⟩, ?_⟩
    · rintro - m ⟨⟩
    · rintro - m ⟨⟩
    · rintro - m ⟨⟩
      rfl
    · rintro - m ⟨⟩
      rfl

/-- A message that arrives between two peeks is returned by the second. -/
theorem not_keepsContract : ¬∀ (tr : List TpCall) (tp : TpMembers), TpRun tr tp →
    (∀ data, .receive data ∈ tr → data.length ≤ 0xFFFFFF) → KeepsContract tr := by
  intro hclaim
  have hrun : TpRun ([] ++ [.receive [1]] ++ [.peek 1 [1]] ++ [.receive [2, 3]] ++ [.peek 2 [2, 3]])
      (((TpMembers.initial.receiveFromLibrary [1] 0).doipTpPeek.2.receiveFromLibrary
        [2, 3] 0).doipTpPeek.2) :=
    .snoc (.snoc (.snoc (.snoc (.start rfl) ⟨0, rfl⟩) ⟨rfl, rfl⟩) ⟨0, rfl⟩) ⟨rfl, rfl⟩
  have hkeeps := hclaim _ _ hrun fun data hdata => ?_
  · obtain ⟨-, hlast⟩ := everywhere_snoc.1 hkeeps.stable
    have hreturned :
        Returned ([] ++ [.receive [1]] ++ [.peek 1 [1]] ++ [.receive [2, 3]]) 1 [1] :=
      ⟨Nat.one_pos, since_snoc.2 (.inr ⟨by simp, since_snoc.2 (.inl rfl)⟩)⟩
    obtain ⟨hlen, -⟩ := hlast 2 [2, 3] rfl 1 [1] hreturned
    cases hlen
  · rcases (by simpa using hdata : data = [1] ∨ data = [2, 3]) with rfl | rfl <;> decide

end EcuUpgrade
