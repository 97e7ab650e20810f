import EcuUpgrade.IsoTp.Network
import EcuUpgrade.Lib.Rounds

/-!
# A message gets through

A message of more than 7 bytes is sent from one end to the other, neither of which has anything else
to send, and no timer expires. In whatever order the two ends poll and handle the frames, they never
wait for each other: what the sender may still send and what it has sent make up the blocks that the
receiver has asked for. Every round in which the receiver handles a frame, the sender handles a
frame and the sender polls leaves less to do, until the receiver has the message.

## Main definitions

* `Turn`, `CalmStep`: the calls of an exchange, while no timer expires.
* `Stage`, `Exchanging`: how far an exchange has come.

## Main results

* `Exchanging.poll`, `Exchanging.flow`, `Exchanging.data`: what the calls do.
* `exchange_advances`: the two ends never wait for each other.
* `message_gets_through`: **the receiver has the message after sufficiently many rounds.**
-/

namespace EcuUpgrade

open Blocks Memory Rounds Runs Segmentation

/-! ### Stages of an exchange -/

/-- How many frames of a message have been sent and handled, and how many flow control frames are
under way. -/
structure Stage where
  sent : ℕ
  handled : ℕ
  flow : ℕ

/-- A frame with the `k`-th piece of a message: the first frame, or a consecutive frame. -/
def IsPiece (msg : Bytes) : ℕ → Bytes → Prop
  | 0, frame => pieceOf frame = some (.first msg.length (msg.take 6))
  | k + 1, frame => ∃ data, pieceOf frame = some (.next ((k + 1) % 16) data) ∧
      block 7 (msg.drop 6) k <+: data

/-- The flow control frame that begins a block. -/
def continueFrame : Bytes :=
  (isotpSendFlowControl 0 pciFlowStatusContinue isoTpDefaultBlockSize isoTpDefaultStMin).data

/-- **The invariant of an exchange**: the sender, the receiver, and the frames under way to the
receiver and to the sender. A message of `n` bytes has `n / 7` consecutive frames, and the receiver
has asked for `(k + 7) / 8` blocks when it has handled `k` frames of it. -/
structure Exchanging (msg : Bytes) (p : Stage) (tx : IsoTpSender) (rx : IsoTpReceiver)
    (data flows : List Bytes) : Prop where
  long : 7 < msg.length
  room : msg.length ≤ rx.limit
  handled_le : p.handled ≤ p.sent
  sent_pos : 0 < p.sent
  sent_le : p.sent ≤ msg.length / 7 + 1
  data : List.Forall₂ (IsPiece msg) (List.range' p.handled (p.sent - p.handled)) data
  flows : flows = List.replicate p.flow continueFrame
  credit : p.sent - 1 + 8 * p.flow ≤ 8 * ((p.handled + 7) / 8)
  sending : p.sent ≤ msg.length / 7 → tx.sendStatus = .inprogress ∧ tx.At msg (p.sent - 1) ∧
    tx.sendStMin = 0 ∧
    tx.sendBsRemain.toNat + (p.sent - 1) + 8 * p.flow = 8 * ((p.handled + 7) / 8)
  sent : p.sent = msg.length / 7 + 1 → tx.sendStatus ≠ .inprogress ∧ p.flow = 0
  receiving : rx.Receiving
  collecting : 0 < p.handled → p.handled ≤ msg.length / 7 →
    rx.receiveStatus = .inprogress ∧ rx.collector = awaiting isoTpFormat msg (p.handled - 1) ∧
      rx.receiveBsCount.toNat = 8 - (p.handled - 1) % 8
  complete : p.handled = msg.length / 7 + 1 → rx.collector = .complete msg

/-- What is left to do. -/
def Stage.left (n : ℕ) (p : Stage) : ℕ := n / 7 + 1 - p.sent + 2 * (n / 7 + 1 - p.handled) + p.flow

variable {env : IsoTpEnv} {tx : IsoTpSender} {rx : IsoTpReceiver} {msg : Bytes} {p : Stage}
  {data flows : List Bytes} {frame : Bytes}

/-- The frames under way to the sender are at most one, and then there are none to the receiver. -/
theorem Exchanging.flow_le (h : Exchanging msg p tx rx data flows) :
    p.flow = 0 ∨ p.flow = 1 ∧ p.handled = p.sent ∧ tx.sendBsRemain.toNat = 0 ∧
      p.sent ≤ msg.length / 7 := by
  have hhandled := h.handled_le
  have hpos := h.sent_pos
  have hle := h.sent_le
  rcases Nat.lt_or_ge (msg.length / 7) p.sent with hlast | hmore
  · exact .inl (h.sent (by omega)).2
  · obtain ⟨-, -, -, hcredit⟩ := h.sending hmore
    omega

theorem Exchanging.credit_le (h : Exchanging msg p tx rx data flows)
    (hmore : p.sent ≤ msg.length / 7) : tx.sendBsRemain.toNat ≤ 8 := by
  obtain ⟨-, -, -, hcredit⟩ := h.sending hmore
  have hhandled := h.handled_le
  have hpos := h.sent_pos
  omega

theorem maySend_iff (hstMin : tx.sendStMin = 0) :
    tx.maySend env = true ↔ 0 < tx.sendBsRemain.toNat := by
  have hpos : tx.sendBsRemain > 0 ↔ 0 < tx.sendBsRemain.toNat := UInt16.lt_iff_toNat_lt
  have hinvalid : tx.sendBsRemain = isotpInvalidBs → 0 < tx.sendBsRemain.toNat := by
    intro heq
    rw [heq]
    decide
  rw [IsoTpSender.maySend, hstMin]
  simp only [decide_true, Bool.true_or, Bool.and_true, Bool.or_eq_true, decide_eq_true_eq, hpos]
  exact ⟨fun h => h.elim hinvalid id, .inr⟩

/-- The next frame under way. -/
theorem forall₂_range'_succ {R : ℕ → Bytes → Prop} {i j : ℕ} {frames : List Bytes} (hle : i ≤ j)
    (h : List.Forall₂ R (List.range' i (j - i)) frames) (hnext : R j frame) :
    List.Forall₂ R (List.range' i (j + 1 - i)) (frames ++ [frame]) := by
  have hsplit : List.range' i (j + 1 - i) = List.range' i (j - i) ++ [j] := by
    rw [Nat.succ_sub hle, List.range'_concat, Nat.one_mul, Nat.add_sub_cancel' hle]
  rw [hsplit]
  exact List.rel_append h (.cons hnext .nil)

/-- **A poll of the sender** sends the next frame, if it may. -/
theorem Exchanging.poll (h : Exchanging msg p tx rx data flows) (hok : env.isotpUserSendCan = .ok)
    (hmore : p.sent ≤ msg.length / 7) (hcredit : 0 < tx.sendBsRemain.toNat) :
    Exchanging msg { p with sent := p.sent + 1 } (pollContinue env tx).1 rx
      (data ++ [(isotpSendConsecutiveFrame env tx).1.data]) flows ∧
      (pollContinue env tx).2 = some (isotpSendConsecutiveFrame env tx).1 := by
  obtain ⟨hprogress, hat, hstMin, hcredits⟩ := h.sending hmore
  obtain ⟨k, hk⟩ : ∃ k, p.sent = k + 1 := Nat.exists_eq_succ_of_ne_zero h.sent_pos.ne'
  have hcredit8 := h.credit_le hmore
  have hhandled := h.handled_le
  have hflow := h.flow_le
  have hmay : tx.maySend env = true := (maySend_iff hstMin).2 hcredit
  rw [hk, Nat.add_sub_cancel] at hat hcredits
  obtain ⟨bytes, hpiece, hbytes⟩ := pieceOf_consecutiveFrame env hat
  have hframe : IsPiece msg p.sent (isotpSendConsecutiveFrame env tx).1.data := by
    rw [hk]
    exact ⟨bytes, hpiece, hbytes⟩
  have hbs : (tx.goOn env).sendBsRemain.toNat = tx.sendBsRemain.toNat - 1 := by
    have hvalid : tx.sendBsRemain ≠ isotpInvalidBs := by
      rintro heq
      rw [heq] at hcredit8
      exact absurd hcredit8 (by decide)
    have hone : (1 : UInt16) ≤ tx.sendBsRemain := UInt16.le_iff_toNat_le.2 hcredit
    rw [IsoTpSender.goOn, if_pos hvalid]
    exact UInt16.toNat_sub_of_le _ _ hone
  rcases pollContinue_cases env tx with ⟨hno, -⟩ | ⟨-, ⟨-, heq⟩ | ⟨hfail, -⟩⟩
  · rw [hmay] at hno
    cases hno
  swap
  · exact absurd hok hfail
  rw [heq]
  refine ⟨?_, rfl⟩
  have hdata := forall₂_range'_succ h.handled_le h.data hframe
  by_cases hnext : 6 + (k + 1) * 7 < msg.length
  · rw [if_neg (not_not.2 hnext ∘ (goOn_offset_ge hat).1)]
    exact {
      long := h.long, room := h.room, receiving := h.receiving, collecting := h.collecting
      complete := h.complete, flows := h.flows, data := hdata
      handled_le := by dsimp only; omega
      sent_pos := by dsimp only; omega
      sent_le := by dsimp only; omega
      credit := by dsimp only; omega
      sending := fun _ => ⟨hprogress, by rw [hk]; exact goOn_at hat hnext, hstMin, by
        rw [hbs]
        dsimp only
        omega⟩
      sent := by dsimp only; omega }
  · rw [if_pos ((goOn_offset_ge hat).2 hnext)]
    exact {
      long := h.long, room := h.room, receiving := h.receiving, collecting := h.collecting
      complete := h.complete, flows := h.flows, data := hdata
      handled_le := by dsimp only; omega
      sent_pos := by dsimp only; omega
      sent_le := by dsimp only; omega
      credit := by dsimp only; omega
      sending := by dsimp only; omega
      sent := fun _ => ⟨by simp, by dsimp only; omega⟩ }

/-- The sender when a new block begins. -/
theorem onContinueFrame (env : IsoTpEnv) (hprogress : tx.sendStatus = .inprogress) :
    onFlowControlFrame env tx (padded continueFrame) continueFrame.length = { tx with
      sendTimerBs := env.isotpUserGetMs 0 + isoTpDefaultResponseTimeout
      sendBsRemain := 8
      sendStMin := 0
      sendWtfCount := 0 } := by
  rw [onFlowControlFrame, if_neg (not_not.2 hprogress)]
  rfl

/-- **The sender handles a flow control frame.** -/
theorem Exchanging.flow (h : Exchanging msg p tx rx data flows) (hflow : p.flow = 1) :
    Exchanging msg { p with flow := 0 }
      (onFlowControlFrame env tx (padded continueFrame) continueFrame.length) rx data [] := by
  obtain ⟨hhandled, hzero, hmore⟩ := h.flow_le.resolve_left (by omega) |>.2
  obtain ⟨hprogress, hat, -, hcredit⟩ := h.sending hmore
  rw [onContinueFrame env hprogress]
  exact {
    long := h.long, room := h.room, receiving := h.receiving, collecting := h.collecting
    complete := h.complete, flows := rfl, data := h.data, handled_le := h.handled_le
    sent_pos := h.sent_pos, sent_le := h.sent_le
    credit := by dsimp only; omega
    sending := fun _ => ⟨hprogress, ⟨hat.size, hat.buffer, hat.offset, hat.more, hat.sn⟩, rfl, by
      have height : (8 : UInt16).toNat = 8 := rfl
      dsimp only
      omega⟩
    sent := by dsimp only; omega }

/-! ### The receiver -/

theorem pieceOf_first {total : ℕ} {bytes : Bytes} (h : pieceOf frame = some (.first total bytes)) :
    frame.length = 8 ∧ pciType (frame.getD 0 0) = isotpPciTypeFirstFrame ∧ 7 < total ∧
      total = (pciLow (frame.getD 0 0)).toNat * 256 + (frame.getD 1 0).toNat := by
  unfold pieceOf at h
  dsimp only at h
  split_ifs at h with hlen htype hbad htype' hbad'
  · cases h
  · cases h
    exact ⟨by omega, htype', by omega, rfl⟩
  · cases h

theorem pieceOf_next {number : ℕ} {bytes : Bytes}
    (h : pieceOf frame = some (.next number bytes)) :
    2 ≤ frame.length ∧ frame.length ≤ 8 ∧
      pciType (frame.getD 0 0) = tsotpPciTypeConsecutiveFrame ∧
      number = (pciLow (frame.getD 0 0)).toNat ∧ bytes = frame.drop 1 := by
  unfold pieceOf at h
  dsimp only at h
  split_ifs at h with hlen htype hbad htype' hbad' htype''
  · cases h
  · cases h
  · cases h
    exact ⟨by omega, by omega, htype'', rfl, rfl⟩

/-- What the members of the receiver are when it collects a message. -/
theorem awaiting_members {k : ℕ} (hprogress : rx.receiveStatus = .inprogress)
    (h : rx.collector = awaiting isoTpFormat msg k) (hk : 6 + k * 7 < msg.length) :
    rx.receiveSize.toNat = msg.length ∧ rx.receiveOffset.toNat = 6 + k * 7 ∧
      rx.receiveSn.toNat = (k + 1) % 16 := by
  rw [collector_of_inprogress hprogress, awaiting] at h
  obtain ⟨hsize, hgot, hsn⟩ := Collector.collecting.inj h
  have hlength := congrArg List.length hgot
  rw [length_cells, length_beginning (show isoTpFormat.head + k * isoTpFormat.body ≤ _ from hk.le)]
    at hlength
  exact ⟨hsize, hlength, hsn⟩

/-- The frames after the first one that is under way. -/
theorem forall₂_range'_tail {R : ℕ → Bytes → Prop} {i j : ℕ} {frames : List Bytes}
    (h : List.Forall₂ R (List.range' i (j - i)) (frame :: frames)) :
    i < j ∧ R i frame ∧ List.Forall₂ R (List.range' (i + 1) (j - (i + 1))) frames := by
  have hlength := h.length_eq
  rw [List.length_range', List.length_cons] at hlength
  have hsplit : List.range' i (j - i) = i :: List.range' (i + 1) (j - (i + 1)) := by
    rw [hlength, List.range'_succ]
    congr 2
    omega
  rw [hsplit] at h
  obtain ⟨hfirst, hrest⟩ := List.forall₂_cons.1 h
  exact ⟨by omega, hfirst, hrest⟩

/-- A frame has been handled, and the receiver asks for a block if it was the last one of a block
or the first frame. -/
theorem Exchanging.handle {rx' : IsoTpReceiver} {f : ℕ}
    (h : Exchanging msg p tx rx (frame :: data) flows) (hkeeps : rx.Keeps rx')
    (hflow : p.handled < msg.length / 7 → f = if p.handled % 8 = 0 then 1 else 0)
    (hlast : p.handled = msg.length / 7 → f = 0)
    (hcollecting : p.handled < msg.length / 7 → rx'.receiveStatus = .inprogress ∧
      rx'.collector = awaiting isoTpFormat msg p.handled ∧
        rx'.receiveBsCount.toNat = 8 - p.handled % 8)
    (hcomplete : p.handled = msg.length / 7 → rx'.collector = .complete msg) :
    Exchanging msg { p with handled := p.handled + 1, flow := p.flow + f } tx rx' data
      (flows ++ List.replicate f continueFrame) := by
  obtain ⟨hlt, -, hdata⟩ := forall₂_range'_tail h.data
  have hle := h.sent_le
  have hcredit := h.credit
  have hold := h.flow_le
  have hf : p.handled < msg.length / 7 →
      f = 1 ∧ p.handled % 8 = 0 ∨ f = 0 ∧ p.handled % 8 ≠ 0 := by
    intro hmore
    have := hflow hmore
    split_ifs at this with hmod
    · exact .inl ⟨this, hmod⟩
    · exact .inr ⟨this, hmod⟩
  exact {
    long := h.long, sent_pos := h.sent_pos, sent_le := h.sent_le, data := hdata
    receiving := hkeeps.receiving
    room := by
      rw [IsoTpReceiver.limit, hkeeps.bufSize]
      exact h.room
    handled_le := by dsimp only; omega
    flows := by rw [h.flows, List.replicate_append_replicate]
    credit := by dsimp only; omega
    sending := fun hmore => by
      obtain ⟨hprogress, hat, hstMin, hbs⟩ := h.sending hmore
      exact ⟨hprogress, hat, hstMin, by dsimp only at hmore ⊢; omega⟩
    sent := fun hsent => ⟨(h.sent hsent).1, by
      have hnone := (h.sent hsent).2
      dsimp only at hsent ⊢
      omega⟩
    collecting := fun _ hmore => by
      dsimp only at hmore ⊢
      rw [Nat.add_sub_cancel]
      exact hcollecting hmore
    complete := fun hall => hcomplete (Nat.succ.inj hall) }

/-- **The receiver handles the first frame**, and asks for a block. -/
theorem Exchanging.firstFrame {link : IsoTpLink} (env : IsoTpEnv)
    (h : Exchanging msg p tx link.rx (frame :: data) flows) (hzero : p.handled = 0) :
    ∃ f ≤ 1, Exchanging msg { p with handled := p.handled + 1, flow := p.flow + f } tx
        (isotpOnCanMessage env link frame).1.rx data
        (flows ++ ((isotpOnCanMessage env link frame).2.map CanFrame.data).toList) ∧
      (isotpOnCanMessage env link frame).1.tx = link.tx := by
  obtain ⟨-, hpiece, -⟩ := forall₂_range'_tail h.data
  rw [hzero] at hpiece
  obtain ⟨hlen, htype, htotal, hsize⟩ := pieceOf_first hpiece
  have hcollector := collector_onCanMessage env frame h.receiving
  have hkeeps := keeps_onCanMessage env frame h.receiving
  have haccept := accept_first (F := isoTpFormat) (c := link.rx.collector) h.room
  have hlong := h.long
  have hlow := total_toNat frame
  rw [IsoTpReceiver.collected, hpiece] at hcollector
  rcases isotpOnCanMessage_cases env link frame with ⟨-, hno, -⟩ |
    ⟨-, -, ⟨htype', -⟩ | ⟨-, heq⟩ | ⟨htype', -⟩ | ⟨⟨-, hno⟩, -⟩⟩
  · rw [hpiece] at hno
    cases hno
  · rw [htype] at htype'
    exact absurd htype' (by decide)
  · rw [heq] at hcollector hkeeps ⊢
    rcases onFirstFrame_cases env link.rx link.tx.sendArbitrationId frame with ⟨hbad, -⟩ |
      ⟨⟨-, -, hover⟩, -⟩ | ⟨-, heq'⟩
    · omega
    · have := h.room
      omega
    · rw [heq'] at hcollector hkeeps ⊢
      refine ⟨1, le_rfl, h.handle hkeeps (fun _ => by rw [hzero]; rfl) (by omega) (fun _ => ?_)
        (by omega), rfl⟩
      rw [hzero]
      exact ⟨rfl, hcollector.trans haccept, rfl⟩
  · rw [htype] at htype'
    exact absurd htype' (by decide)
  · rw [hpiece] at hno
    cases hno

/-- **The receiver handles a consecutive frame**, and may ask for the next block. -/
theorem Exchanging.consecutiveFrame {link : IsoTpLink} (env : IsoTpEnv)
    (h : Exchanging msg p tx link.rx (frame :: data) flows) (hpos : 0 < p.handled) :
    ∃ f ≤ 1, Exchanging msg { p with handled := p.handled + 1, flow := p.flow + f } tx
        (isotpOnCanMessage env link frame).1.rx data
        (flows ++ ((isotpOnCanMessage env link frame).2.map CanFrame.data).toList) ∧
      (isotpOnCanMessage env link frame).1.tx = link.tx := by
  obtain ⟨hlt, hpiece, -⟩ := forall₂_range'_tail h.data
  obtain ⟨j, hj⟩ : ∃ j, p.handled = j + 1 := Nat.exists_eq_succ_of_ne_zero hpos.ne'
  have hle := h.sent_le
  obtain ⟨hprogress, hawaiting, hbsCount⟩ := h.collecting hpos (by omega)
  rw [hj, Nat.add_sub_cancel] at hawaiting hbsCount
  rw [hj] at hpiece
  have hmore : 6 + j * 7 < msg.length := by omega
  obtain ⟨hsize, hoffset, hsn⟩ := awaiting_members hprogress hawaiting hmore
  obtain ⟨bytes, hpiece, hbytes⟩ := hpiece
  obtain ⟨hlen, hlen', htype, hnumber, rfl⟩ := pieceOf_next hpiece
  have hcollector := collector_onCanMessage env frame h.receiving
  have hkeeps := keeps_onCanMessage env frame h.receiving
  have haccept : (awaiting isoTpFormat msg j).accept isoTpFormat link.rx.limit
      (.next ((j + 1) % 16) (frame.drop 1)) = _ := accept_next hmore hbytes
  rw [IsoTpReceiver.collected, hpiece, Option.elim_some, hawaiting] at hcollector
  have hremaining := remainingBytes_toNat (h.receiving.offset_lt hprogress)
  have hgoOn := goOn_offset env frame h.receiving hprogress
  have hblock := length_block_drop isoTpFormat msg j
  have hprefix := hbytes.length_le
  rw [List.length_drop] at hprefix
  dsimp only [isoTpFormat] at hblock
  rw [hblock] at hprefix
  rcases isotpOnCanMessage_cases env link frame with ⟨-, hno, -⟩ |
    ⟨-, -, ⟨htype', -⟩ | ⟨htype', -⟩ | ⟨-, heq⟩ | ⟨⟨-, hno⟩, -⟩⟩
  · rw [hpiece] at hno
    cases hno
  · rw [htype] at htype'
    exact absurd htype' (by decide)
  · rw [htype] at htype'
    exact absurd htype' (by decide)
  · rw [heq] at hcollector hkeeps ⊢
    rcases onConsecutiveFrame_cases env link.tx.sendArbitrationId hlen hprogress with
      ⟨hwrong, -⟩ | ⟨-, ⟨hshort, -⟩ | ⟨-, ⟨hlast, heq'⟩ | ⟨hnext, heq'⟩⟩⟩
    · exact absurd (UInt8.toNat_inj.1 (by omega)) hwrong
    · omega
    · have hfinished := UInt16.le_iff_toNat_le.1 hlast
      have hcomplete := hcollector.trans
        (haccept.trans (if_neg (by dsimp only [isoTpFormat]; omega)))
      rw [heq'] at hcomplete hkeeps ⊢
      exact ⟨0, by decide, h.handle hkeeps (by omega) (fun _ => rfl) (by omega)
        (fun _ => hcomplete), rfl⟩
    · have hunfinished := Nat.not_le.1 (mt UInt16.le_iff_toNat_le.2 hnext)
      have hagain := hcollector.trans
        (haccept.trans (if_pos (by dsimp only [isoTpFormat]; omega)))
      have hone : (1 : UInt8) ≤ link.rx.receiveBsCount := by
        rw [UInt8.le_iff_toNat_le, hbsCount]
        change 1 ≤ _
        omega
      have hcount : (link.rx.receiveBsCount - 1).toNat = link.rx.receiveBsCount.toNat - 1 :=
        UInt8.toNat_sub_of_le _ _ hone
      have hzero : link.rx.receiveBsCount - 1 = 0 ↔ p.handled % 8 = 0 := by
        rw [← UInt8.toNat_inj, hcount, hbsCount]
        change _ = 0 ↔ _
        omega
      rw [heq', IsoTpReceiver.nextBs] at hagain hkeeps ⊢
      by_cases hblockEnd : p.handled % 8 = 0
      · rw [if_pos (hzero.2 hblockEnd)] at hagain hkeeps ⊢
        refine ⟨1, le_rfl, h.handle hkeeps (fun _ => (if_pos hblockEnd).symm) (by omega)
          (fun _ => ?_) (by omega), rfl⟩
        rw [hj]
        exact ⟨hprogress, hagain, by rw [← hj, hblockEnd]; rfl⟩
      · rw [if_neg (mt hzero.1 hblockEnd)] at hagain hkeeps ⊢
        refine ⟨0, by decide, h.handle hkeeps (fun _ => (if_neg hblockEnd).symm) (by omega)
          (fun _ => ?_) (by omega), rfl⟩
        rw [hj]
        refine ⟨hprogress, hagain, ?_⟩
        rw [hcount]
        omega
  · rw [hpiece] at hno
    cases hno

/-! ### The two ends -/

/-- A call during an exchange. -/
inductive Turn
  | poll
  | deliver
  deriving DecidableEq, Repr

/-- The links and frames after a call; there may be no frame to handle. -/
def Network.turn (n : Network) (s : Side) (env : IsoTpEnv) : Turn → Network
  | .poll => (n.perform s env .poll).2
  | .deliver =>
    match n.inbox s with
    | [] => n
    | frame :: _ => (n.perform s env (.onCanMessage frame)).2

/-- The frames of a call are taken, and no timer that runs expires during a poll. -/
structure Calm (env : IsoTpEnv) (link : IsoTpLink) : Prop where
  sendCan : env.isotpUserSendCan = .ok
  timerBs : link.tx.sendStatus = .inprogress →
    isoTpTimeAfter (env.isotpUserGetMs 3) (pollContinue env link.tx).1.sendTimerBs = false
  timerCr : link.rx.receiveStatus = .inprogress →
    isoTpTimeAfter (env.isotpUserGetMs 4) link.rx.receiveTimerCr = false

instance (env : IsoTpEnv) (link : IsoTpLink) : Decidable (Calm env link) :=
  decidable_of_iff (env.isotpUserSendCan = .ok ∧
      (link.tx.sendStatus = .inprogress →
        isoTpTimeAfter (env.isotpUserGetMs 3) (pollContinue env link.tx).1.sendTimerBs = false) ∧
      (link.rx.receiveStatus = .inprogress →
        isoTpTimeAfter (env.isotpUserGetMs 4) link.rx.receiveTimerCr = false))
    ⟨fun h => ⟨h.1, h.2.1, h.2.2⟩, fun h => ⟨h.sendCan, h.timerBs, h.timerCr⟩⟩

/-- The calls of an exchange, while no timer expires. -/
def CalmStep (n : Network) (call : Side × Turn) (n' : Network) : Prop :=
  ∃ env, Calm env (n.links call.1) ∧ n' = n.turn call.1 env call.2

/-- An exchange from the end `s` to the other one, which sends no messages itself. -/
def InExchange (s : Side) (msg : Bytes) (p : Stage) (n : Network) : Prop :=
  Exchanging msg p (n.links s).tx (n.links s.other).rx (n.inbox s.other) (n.inbox s) ∧
    (n.links s.other).tx.sendStatus ≠ .inprogress

/-- The calls that reduce what is left to do. -/
def Helps (s : Side) (n : ℕ) (p : Stage) (call : Side × Turn) : Prop :=
  p.handled < p.sent ∧ call = (s.other, .deliver) ∨
    p.handled = p.sent ∧ p.flow ≠ 0 ∧ call = (s, .deliver) ∨
    p.handled = p.sent ∧ p.flow = 0 ∧ p.sent ≤ n / 7 ∧ call = (s, .poll)

variable {n n' : Network} {s t : Side}

theorem perform_links_self (n : Network) (s : Side) (env : IsoTpEnv) (op : IsoTpOp) :
    (n.perform s env op).2.links s = ((n.links s).perform env op).2 :=
  if_pos rfl

theorem perform_links_other (n : Network) (env : IsoTpEnv) (op : IsoTpOp) (h : t ≠ s) :
    (n.perform s env op).2.links t = n.links t :=
  if_neg h

theorem perform_inbox_self (n : Network) (s : Side) (env : IsoTpEnv) (op : IsoTpOp) :
    (n.perform s env op).2.inbox s = (n.inbox s).drop op.handled?.toList.length :=
  if_pos rfl

theorem perform_inbox_other (n : Network) (env : IsoTpEnv) (op : IsoTpOp) (h : t ≠ s) :
    (n.perform s env op).2.inbox t =
      n.inbox t ++ ((n.links s).perform env op).1.frame?.toList :=
  if_neg h

theorem Calm.taken (h : Calm env link) (frame : Option CanFrame) : env.taken frame = frame :=
  if_pos h.sendCan

/-- A poll while no timer expires. -/
theorem Calm.poll {link : IsoTpLink} (h : Calm env link) :
    link.perform env .poll =
      if link.tx.sendStatus = .inprogress then
        (⟨.poll, .ok, [], (pollContinue env link.tx).2⟩,
          { link with tx := (pollContinue env link.tx).1 })
      else (⟨.poll, .ok, [], none⟩, link) := by
  have hreceiver : pollReceiver env link.rx = link.rx := by
    by_cases hprogress : link.rx.receiveStatus = .inprogress
    · rw [pollReceiver, if_pos hprogress, h.timerCr hprogress, if_neg Bool.false_ne_true]
    · rw [pollReceiver, if_neg hprogress]
  have hsender : pollSender env link.tx =
      if link.tx.sendStatus = .inprogress then pollContinue env link.tx else (link.tx, none) := by
    by_cases hprogress : link.tx.sendStatus = .inprogress
    · rw [pollSender, if_pos hprogress, if_pos hprogress]
      dsimp only
      rw [pollTimeoutBs, h.timerBs hprogress, if_neg Bool.false_ne_true]
    · rw [pollSender, if_neg hprogress, if_neg hprogress]
  have hpoll : link.perform env .poll = (⟨.poll, .ok, [], env.taken (pollSender env link.tx).2⟩,
      ⟨(pollSender env link.tx).1, pollReceiver env link.rx⟩) := rfl
  rw [hpoll, hreceiver, hsender, h.taken]
  split_ifs <;> rfl

/-- A poll of the end that sends. -/
theorem InExchange.poll_sender (h : InExchange s msg p n) (hcalm : Calm env (n.links s)) :
    InExchange s msg p (n.turn s env .poll) ∧ ¬Helps s msg.length p (s, .poll) ∨
      ∃ q, InExchange s msg q (n.turn s env .poll) ∧
        q.left msg.length < p.left msg.length := by
  obtain ⟨hex, hother⟩ := h
  have hpoll := hcalm.poll
  have hhelps : Helps s msg.length p (s, .poll) →
      p.sent ≤ msg.length / 7 ∧ 0 < (n.links s).tx.sendBsRemain.toNat := by
    rintro (⟨-, heq⟩ | ⟨-, -, heq⟩ | ⟨hall, hnone, hmore, -⟩)
    · exact nomatch (congrArg Prod.snd heq : Turn.poll = .deliver)
    · exact nomatch (congrArg Prod.snd heq : Turn.poll = .deliver)
    · obtain ⟨-, -, -, hcredit⟩ := hex.sending hmore
      have hpos := hex.sent_pos
      exact ⟨hmore, by omega⟩
  unfold InExchange Network.turn
  rw [perform_links_self, perform_links_other n env .poll s.other_ne, perform_inbox_self,
    perform_inbox_other n env .poll s.other_ne, hpoll]
  by_cases hsends : p.sent ≤ msg.length / 7 ∧ 0 < (n.links s).tx.sendBsRemain.toNat
  · obtain ⟨hnext, hframe⟩ := hex.poll hcalm.sendCan hsends.1 hsends.2
    rw [if_pos (hex.sending hsends.1).1, IsoTpEvent.frame?, hframe]
    refine .inr ⟨_, ⟨hnext, hother⟩, ?_⟩
    dsimp only [Stage.left]
    omega
  · refine .inl ⟨?_, mt hhelps hsends⟩
    have hquiet : (if (n.links s).tx.sendStatus = .inprogress then
        ((⟨.poll, .ok, [], (pollContinue env (n.links s).tx).2⟩ : IsoTpEvent),
          { n.links s with tx := (pollContinue env (n.links s).tx).1 })
        else (⟨.poll, .ok, [], none⟩, n.links s)) = (⟨.poll, .ok, [], none⟩, n.links s) := by
      by_cases hmore : p.sent ≤ msg.length / 7
      · obtain ⟨hprogress, -, hstMin, -⟩ := hex.sending hmore
        have hmay : (n.links s).tx.maySend env = false :=
          Bool.eq_false_iff.2 fun hmay => hsends ⟨hmore, (maySend_iff hstMin).1 hmay⟩
        rw [if_pos hprogress, pollContinue, hmay]
        rfl
      · have hle := hex.sent_le
        exact if_neg (hex.sent (by omega)).1
    rw [hquiet]
    exact ⟨by simpa [IsoTpEvent.frame?, IsoTpOp.handled?] using hex, hother⟩

/-- A poll of the other end does nothing. -/
theorem InExchange.poll_receiver (h : InExchange s msg p n) (hcalm : Calm env (n.links s.other)) :
    InExchange s msg p (n.turn s.other env .poll) := by
  have hpoll := hcalm.poll
  rw [if_neg h.2] at hpoll
  unfold InExchange Network.turn
  rw [perform_links_self, perform_links_other n env .poll s.other_ne.symm, perform_inbox_self,
    perform_inbox_other n env .poll s.other_ne.symm, hpoll]
  exact ⟨by simpa [IsoTpEvent.frame?, IsoTpOp.handled?] using h.1, h.2⟩

/-- The end that sends handles a flow control frame, if there is one. -/
theorem InExchange.deliver_sender (env : IsoTpEnv) (h : InExchange s msg p n) :
    InExchange s msg p (n.turn s env .deliver) ∧ ¬Helps s msg.length p (s, .deliver) ∨
      ∃ q, InExchange s msg q (n.turn s env .deliver) ∧
        q.left msg.length < p.left msg.length := by
  obtain ⟨hex, hother⟩ := h
  rcases hex.flow_le with hzero | ⟨hone, -⟩
  · have hinbox : n.inbox s = [] := by rw [hex.flows, hzero, List.replicate_zero]
    refine .inl ⟨?_, ?_⟩
    · rw [Network.turn, hinbox]
      exact ⟨hex, hother⟩
    · rintro (⟨-, heq⟩ | ⟨-, hflow, -⟩ | ⟨-, -, -, heq⟩)
      · exact s.other_ne (congrArg Prod.fst heq).symm
      · exact hflow hzero
      · exact nomatch (congrArg Prod.snd heq : Turn.deliver = .poll)
  · have hinbox : n.inbox s = [continueFrame] := by rw [hex.flows, hone, List.replicate_one]
    have hperform : (n.links s).perform env (.onCanMessage continueFrame) =
        (⟨.onCanMessage continueFrame, .ok, [], env.taken none⟩, { n.links s with
          tx := onFlowControlFrame env (n.links s).tx (padded continueFrame)
            continueFrame.length }) := rfl
    refine .inr ⟨{ p with flow := 0 }, ?_, ?_⟩
    · rw [Network.turn, hinbox]
      unfold InExchange
      dsimp only
      rw [perform_links_self, perform_links_other n env _ s.other_ne, perform_inbox_self,
        perform_inbox_other n env _ s.other_ne, hperform, hinbox, env.taken_none]
      exact ⟨by simpa [IsoTpEvent.frame?, IsoTpOp.handled?] using hex.flow hone, hother⟩
    · dsimp only [Stage.left]
      omega

/-- The other end handles a frame of the message, if there is one. -/
theorem InExchange.deliver_receiver (h : InExchange s msg p n)
    (hcalm : Calm env (n.links s.other)) :
    InExchange s msg p (n.turn s.other env .deliver) ∧
        ¬Helps s msg.length p (s.other, .deliver) ∨
      ∃ q, InExchange s msg q (n.turn s.other env .deliver) ∧
        q.left msg.length < p.left msg.length := by
  obtain ⟨hex, hother⟩ := h
  rcases hinbox : n.inbox s.other with _ | ⟨frame, rest⟩
  · refine .inl ⟨?_, ?_⟩
    · rw [Network.turn, hinbox]
      exact ⟨hex, hother⟩
    · have hlength := hex.data.length_eq
      rw [hinbox, List.length_range', List.length_nil] at hlength
      rintro (⟨hlt, -⟩ | ⟨-, -, heq⟩ | ⟨-, -, -, heq⟩)
      · omega
      · exact s.other_ne (congrArg Prod.fst heq)
      · exact s.other_ne (congrArg Prod.fst heq)
  · rw [hinbox] at hex
    obtain ⟨hlt, -, -⟩ := forall₂_range'_tail hex.data
    have hle := hex.sent_le
    obtain ⟨f, hf, hnext, htx⟩ : ∃ f ≤ 1, Exchanging msg
        { p with handled := p.handled + 1, flow := p.flow + f } (n.links s).tx
        (isotpOnCanMessage env (n.links s.other) frame).1.rx rest
        (n.inbox s ++
          ((isotpOnCanMessage env (n.links s.other) frame).2.map CanFrame.data).toList) ∧
        (isotpOnCanMessage env (n.links s.other) frame).1.tx = (n.links s.other).tx := by
      rcases Nat.eq_zero_or_pos p.handled with hzero | hpos
      · exact hex.firstFrame env hzero
      · exact hex.consecutiveFrame env hpos
    have hperform : (n.links s.other).perform env (.onCanMessage frame) =
        (⟨.onCanMessage frame, .ok, [],
          env.taken (isotpOnCanMessage env (n.links s.other) frame).2⟩,
          (isotpOnCanMessage env (n.links s.other) frame).1) := rfl
    refine .inr ⟨⟨p.sent, p.handled + 1, p.flow + f⟩, ?_, ?_⟩
    · rw [Network.turn, hinbox]
      unfold InExchange
      dsimp only
      rw [perform_links_self, perform_links_other n env _ s.other_ne.symm, perform_inbox_self,
        perform_inbox_other n env _ s.other_ne.symm, hperform, hinbox, hcalm.taken, htx]
      exact ⟨hnext, hother⟩
    · dsimp only [Stage.left]
      omega

/-- **The two ends never wait for each other.** -/
theorem exchange_advances (s : Side) (msg : Bytes) :
    Advances CalmStep (InExchange s msg) (Stage.left msg.length) (Helps s msg.length) where
  advance := by
    rintro p n ⟨t, turn⟩ n' h ⟨env, hcalm, rfl⟩
    rcases Side.eq_or_eq_other s t with rfl | rfl
    · cases turn with
      | poll => exact h.poll_sender hcalm
      | deliver => exact h.deliver_sender env
    · cases turn with
      | poll =>
        refine .inl ⟨h.poll_receiver hcalm, ?_⟩
        rintro (⟨-, heq⟩ | ⟨-, -, heq⟩ | ⟨-, -, -, heq⟩)
        · exact nomatch (congrArg Prod.snd heq : Turn.poll = .deliver)
        · exact nomatch (congrArg Prod.snd heq : Turn.poll = .deliver)
        · exact s.other_ne (congrArg Prod.fst heq)
      | deliver => exact h.deliver_receiver hcalm
  exists_helps := by
    intro p n h hpos
    have hhandled := h.1.handled_le
    have hle := h.1.sent_le
    rcases Nat.lt_or_ge p.handled p.sent with hlt | hge
    · exact ⟨_, .inl ⟨hlt, rfl⟩⟩
    have hall : p.handled = p.sent := Nat.le_antisymm hhandled hge
    by_cases hflow : p.flow = 0
    · refine ⟨_, .inr (.inr ⟨hall, hflow, ?_, rfl⟩)⟩
      dsimp only [Stage.left] at hpos
      omega
    · exact ⟨_, .inr (.inl ⟨hall, hflow, rfl⟩)⟩

/-! ### Exchanges -/

variable {n₀ n₁ : Network} {tr : List (Side × IsoTpEvent)} {ev : IsoTpEvent}

/-- An exchange begins when a message is accepted while nothing is under way. -/
theorem inExchange_of_send (h₀ : n₀.Initial) (h : NetRun n₀ tr n)
    (hinbox : ∀ t, n.inbox t = []) (hother : (n.links s.other).tx.sendStatus ≠ .inprogress)
    (hsend : NetStep n (s, ev) n₁) (hop : ev.op = .send msg) (hret : ev.ret = .ok)
    (hlong : 7 < msg.length) (hroom : msg.length ≤ (n.links s.other).rx.limit) :
    InExchange s msg ⟨1, 0, 0⟩ n₁ := by
  obtain ⟨e, -, hsends, -⟩ := LinkRun.emits (NetRun.link h s) (h₀.sendStatus s) (h₀.sendBufSize s)
  have hreceiving := (LinkRun.keeps (NetRun.link h s.other) (h₀.receiveStatus s.other)).receiving
  have hhandled := hsend.handled
  have hsent := hsend.sent
  have hlinks := hsend.links
  have hcall : LinkStep (n.links s) ev (n₁.links s) := hsend.link
  dsimp only at hhandled hsent hlinks
  rw [hinbox, hop] at hhandled
  rw [hinbox, List.nil_append] at hsent
  obtain ⟨env, ⟨payload, hsize, rfl, hlink⟩ | ⟨rfl, -⟩ | ⟨data, rfl, -⟩ | ⟨payloadSize, rfl, -⟩⟩ :=
    hcall.cases
  · cases hop
    rcases isotpSend_cases env (n.links s).tx hsize with ⟨ret, hne, heq⟩ |
      ⟨⟨hle, -⟩, ⟨hshort, -⟩ | ⟨-, ⟨hok, heq⟩ | ⟨hfail, heq⟩⟩⟩
    · rw [heq] at hret
      exact absurd hret hne
    · omega
    · have hpiece := pieceOf_firstFrame env (n.links s).tx.sendArbitrationId
        (load_size (n.links s).tx hsize) (load_buffer (n.links s).tx msg) hlong
        (hle.trans hsends.bufSize)
      rw [IsoTpEvent.frame?, heq, IsoTpEnv.taken, if_pos hok] at hsent
      rw [heq] at hlink
      rw [InExchange, hlinks, hsent, hlink]
      refine ⟨?_, hother⟩
      exact {
        long := hlong, room := hroom, receiving := hreceiving
        handled_le := by decide
        sent_pos := by decide
        sent_le := by dsimp only; omega
        data := .cons hpiece .nil
        flows := hhandled.symm
        credit := by decide
        sending := fun _ => ⟨rfl, ⟨load_size (n.links s).tx hsize,
          load_buffer (n.links s).tx msg, rfl, by dsimp only; omega, rfl⟩, rfl, rfl⟩
        sent := by dsimp only; omega
        collecting := by dsimp only; omega
        complete := by dsimp only; omega }
    · rw [heq] at hret
      exact absurd hret hfail
  · cases hop
  · cases hop
  · cases hop

/-- **The receiver has the message after sufficiently many rounds.** A message of more than 7 bytes
is accepted at one end while nothing is under way, the other end has room for it and nothing to
send, and no timer expires. The calls may come in any order. -/
theorem message_gets_through {rounds : List (List (Side × Turn))} (h₀ : n₀.Initial)
    (h : NetRun n₀ tr n) (hinbox : ∀ t, n.inbox t = [])
    (hother : (n.links s.other).tx.sendStatus ≠ .inprogress) (hsend : NetStep n (s, ev) n₁)
    (hop : ev.op = .send msg) (hret : ev.ret = .ok) (hlong : 7 < msg.length)
    (hroom : msg.length ≤ (n.links s.other).rx.limit)
    (hrounds : ∀ r ∈ rounds, (s.other, .deliver) ∈ r ∧ (s, .deliver) ∈ r ∧ (s, .poll) ∈ r)
    (hmany : 3 * (msg.length / 7) + 2 ≤ rounds.length)
    (hpath : Runs.Path CalmStep n₁ rounds.flatten n') :
    (n'.links s.other).rx.collector = .complete msg ∧ (∀ t, n'.inbox t = []) ∧
      (n'.links s).tx.sendStatus ≠ .inprogress := by
  have hstart := inExchange_of_send h₀ h hinbox hother hsend hop hret hlong hroom
  obtain ⟨p, ⟨hex, -⟩, hleft⟩ := (exchange_advances s msg).done_of_rounds
    (fun r hr p call hhelps => by
      obtain ⟨h₁, h₂, h₃⟩ := hrounds r hr
      rcases hhelps with ⟨-, rfl⟩ | ⟨-, -, rfl⟩ | ⟨-, -, -, rfl⟩
      · exact h₁
      · exact h₂
      · exact h₃)
    hstart (by dsimp only [Stage.left]; omega) hpath
  have hhandled := hex.handled_le
  have hle := hex.sent_le
  have hlength := hex.data.length_eq
  have hflows := hex.flows
  dsimp only [Stage.left] at hleft
  have hflow : p.flow = 0 := by omega
  rw [List.length_range'] at hlength
  rw [hflow, List.replicate_zero] at hflows
  refine ⟨hex.complete (by omega), fun t => ?_, (hex.sent (by omega)).1⟩
  rcases Side.eq_or_eq_other s t with rfl | rfl
  · exact hflows
  · exact List.length_eq_zero_iff.1 (by omega)

/-- The calls of a schedule, as long as no timer expires. -/
def Network.nextTurn (env : IsoTpEnv) (n : Network) (call : Side × Turn) :
    Option ((Side × Turn) × Network) :=
  if Calm env (n.links call.1) then some (call, n.turn call.1 env call.2) else none

theorem calmStep_nextTurn {call call' : Side × Turn}
    (h : n.nextTurn env call = some (call', n')) : CalmStep n call' n' := by
  unfold Network.nextTurn at h
  split_ifs at h with hcalm
  obtain ⟨rfl, rfl⟩ := Prod.mk.inj (Option.some.inj h).symm
  exact ⟨env, hcalm, rfl⟩

/-- Ten bytes get through in five rounds. -/
theorem message_gets_through_ten : ∃ ev n₁ n', NetStep freshNetwork (.left, ev) n₁ ∧
    Runs.Path CalmStep n₁
      (List.replicate 5 [(.right, .deliver), (.left, .deliver), (.left, .poll)]).flatten n' ∧
    (n'.links .right).rx.collector = .complete [1, 2, 3, 4, 5, 6, 7, 8, 9, 10] ∧
    (∀ t, n'.inbox t = []) ∧ (n'.links .left).tx.sendStatus ≠ .inprogress := by
  let env : IsoTpEnv := ⟨fun _ => 5, .ok⟩
  let call := freshNetwork.perform .left env (.send [1, 2, 3, 4, 5, 6, 7, 8, 9, 10])
  let rounds : List (List (Side × Turn)) :=
    List.replicate 5 [(.right, .deliver), (.left, .deliver), (.left, .poll)]
  have hsend : NetStep freshNetwork (.left, call.1.2) call.2 :=
    netStep_perform env (.send [1, 2, 3, 4, 5, 6, 7, 8, 9, 10]) (by decide) rfl
  have hrun : (follow (Network.nextTurn env) call.2 rounds.flatten).map Prod.fst =
      some rounds.flatten := by
    decide
  obtain ⟨⟨calls, n'⟩, hfollow, rfl⟩ := Option.map_eq_some_iff.1 hrun
  have hpath : Runs.Path CalmStep call.2 rounds.flatten n' :=
    follow_path (Network.nextTurn env) (fun _ _ _ _ h => calmStep_nextTurn h) hfollow
  exact ⟨call.1.2, call.2, n', hsend, hpath, message_gets_through freshNetwork_initial
    (.start rfl) (fun _ => rfl) (by decide) hsend rfl rfl (by decide) (by decide) (by decide)
    (by decide) hpath⟩

end EcuUpgrade
