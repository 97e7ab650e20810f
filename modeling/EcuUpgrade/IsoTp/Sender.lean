import EcuUpgrade.IsoTp.Receiver

/-!
# The sender of a link

The frames that a sender hands out are the pieces that `Emitter` allows, whatever flow control
frames it receives, whatever the clock says and whatever becomes of its frames. The length of a
message is announced in 12 bits, so that the send buffer must not be larger than 4095 bytes.

## Main definitions

* `IsoTpSender.At`, `IsoTpSender.Sends`: the sender is at some consecutive frame of a message.

## Main results

* `sends_isotpSend`, `sends_pollSender`: what is sent are pieces of messages.
* `LinkStep.sends`: a call emits pieces.
-/

namespace EcuUpgrade

open Blocks Memory Runs Segmentation

/-! ### Frames and their pieces -/

theorem pciByte_toNat (type low : UInt8) (h : type.toNat < 16) :
    (pciByte type low).toNat = type.toNat * 16 + low.toNat % 16 := by
  have hshift : (type <<< 4).toNat = type.toNat * 2 ^ 4 := by
    rw [UInt8.toNat_shiftLeft]
    have hfour : (4 : UInt8).toNat % 8 = 4 := rfl
    rw [hfour, Nat.shiftLeft_eq]
    omega
  have hlow : (low &&& 0x0F).toNat = low.toNat % 2 ^ 4 := by
    rw [UInt8.toNat_and]
    exact Nat.and_two_pow_sub_one_eq_mod low.toNat 4
  rw [pciByte, UInt8.toNat_or, hshift, hlow, Nat.mul_comm,
    ← Nat.two_pow_add_eq_or_of_lt (Nat.mod_lt _ (by decide)), Nat.mul_comm]

theorem pciType_pciByte (type low : UInt8) (h : type.toNat < 16) :
    pciType (pciByte type low) = type := by
  rw [← UInt8.toNat_inj, pciType, UInt8.toNat_shiftRight, pciByte_toNat type low h]
  have hfour : (4 : UInt8).toNat % 8 = 4 := rfl
  rw [hfour, Nat.shiftRight_eq_div_pow]
  omega

theorem pciLow_pciByte (type low : UInt8) (h : type.toNat < 16) :
    (pciLow (pciByte type low)).toNat = low.toNat % 16 := by
  have hmod : (pciLow (pciByte type low)).toNat = (pciByte type low).toNat % 2 ^ 4 := by
    rw [pciLow, UInt8.toNat_and]
    exact Nat.and_two_pow_sub_one_eq_mod _ 4
  rw [hmod, pciByte_toNat type low h]
  omega

theorem length_padded {bs : Bytes} (h : bs.length ≤ 8) : (padded bs).length = 8 := by
  rw [padded, List.length_append, List.length_replicate]
  omega

theorem padded_cons_getD (b : UInt8) (bs : Bytes) : (padded (b :: bs)).getD 0 0 = b := rfl

/-- A flow control frame has no piece of a message. -/
theorem pieceOf_flowControl (id : UInt32) (flowStatus blockSize stMinMs : UInt8) :
    pieceOf (isotpSendFlowControl id flowStatus blockSize stMinMs).data = none := by
  have htype : pciType ((isotpSendFlowControl id flowStatus blockSize stMinMs).data.getD 0 0) =
      isotpPciTypeFlowControlFrame := pciType_pciByte _ _ (by decide)
  have hlen : (isotpSendFlowControl id flowStatus blockSize stMinMs).data.length = 8 :=
    length_padded (by simp)
  rw [pieceOf, if_neg (by omega)]
  dsimp only
  rw [htype, if_neg (by decide), if_neg (by decide), if_neg (by decide)]

variable {env : IsoTpEnv} {tx tx' : IsoTpSender} {e : Emitter UInt8} {msg : Bytes} {k : ℕ}
  {id : UInt32}

/-- The piece in a single frame; a frame without any bytes of a message is dropped. -/
theorem pieceOf_singleFrame (id : UInt32) (hsize : tx.sendSize.toNat = msg.length)
    (hbuffer : cells tx.sendBuffer 0 msg.length = msg) (hshort : msg.length ≤ 7) :
    pieceOf (isotpSendSingleFrame tx id).data =
      if msg = [] then none else some (.whole msg) := by
  have hdata : (isotpSendSingleFrame tx id).data =
      padded (pciByte isotpPciTypeSingle tx.sendSize.toUInt8 :: msg) := by
    rw [isotpSendSingleFrame, hsize, hbuffer]
  have hlen : (padded (pciByte isotpPciTypeSingle tx.sendSize.toUInt8 :: msg)).length = 8 :=
    length_padded (by rw [List.length_cons]; omega)
  have htype := pciType_pciByte isotpPciTypeSingle tx.sendSize.toUInt8 (by decide)
  have hlow : (pciLow (pciByte isotpPciTypeSingle tx.sendSize.toUInt8)).toNat = msg.length := by
    rw [pciLow_pciByte _ _ (by decide), UInt16.toNat_toUInt8, hsize]
    omega
  rw [hdata, pieceOf, if_neg (by omega)]
  dsimp only
  rw [padded_cons_getD, htype, hlow, if_pos rfl, hlen]
  by_cases hempty : msg = []
  · rw [if_pos hempty, if_pos (.inl (by rw [hempty, List.length_nil]))]
  · have hpos := List.length_pos_iff.2 hempty
    rw [if_neg hempty, if_neg (by omega), padded, List.cons_append, List.drop_one, List.tail_cons,
      List.take_left]

/-- The piece in a first frame. -/
theorem pieceOf_firstFrame (env : IsoTpEnv) (id : UInt32)
    (hsize : tx.sendSize.toNat = msg.length) (hbuffer : cells tx.sendBuffer 0 msg.length = msg)
    (hlong : 7 < msg.length) (hfits : msg.length ≤ 4095) :
    pieceOf (isotpSendFirstFrame env tx id).1.data = some (.first msg.length (msg.take 6)) := by
  have hhead : cells tx.sendBuffer 0 6 = msg.take 6 := by
    conv_rhs => rw [← hbuffer]
    rw [take_cells, min_eq_left (by omega)]
  have htype := pciType_pciByte isotpPciTypeFirstFrame ((tx.sendSize >>> 8) &&& 0x0F).toUInt8
    (by decide)
  have hlow : (pciLow (pciByte isotpPciTypeFirstFrame
      ((tx.sendSize >>> 8) &&& 0x0F).toUInt8)).toNat = msg.length / 256 := by
    have hand : (tx.sendSize >>> 8 &&& 0x0F).toNat = (tx.sendSize >>> 8).toNat % 2 ^ 4 := by
      rw [UInt16.toNat_and]
      exact Nat.and_two_pow_sub_one_eq_mod _ 4
    have height : (8 : UInt16).toNat % 16 = 8 := rfl
    rw [pciLow_pciByte _ _ (by decide), UInt16.toNat_toUInt8, hand, UInt16.toNat_shiftRight, hsize,
      height, Nat.shiftRight_eq_div_pow]
    omega
  have hbyte : tx.sendSize.toUInt8.toNat = msg.length % 256 := by
    rw [UInt16.toNat_toUInt8, hsize]
  have htotal : msg.length / 256 * 256 + msg.length % 256 = msg.length := by omega
  have hdata : (isotpSendFirstFrame env tx id).1.data =
      pciByte isotpPciTypeFirstFrame ((tx.sendSize >>> 8) &&& 0x0F).toUInt8 ::
        tx.sendSize.toUInt8 :: msg.take 6 := by
    rw [isotpSendFirstFrame, hhead]
  have hlen : (isotpSendFirstFrame env tx id).1.data.length = 8 := by
    rw [hdata, List.length_cons, List.length_cons, List.length_take]
    omega
  rw [pieceOf, if_neg (by omega)]
  dsimp only
  rw [hlen, hdata, List.getD_cons_zero, List.getD_cons_succ, List.getD_cons_zero, htype, hlow,
    hbyte, htotal, if_neg (by decide), if_pos rfl, if_neg (by omega)]
  rfl

/-! ### The invariant -/

/-- The sender of a message has sent its first frame and `k` consecutive frames, and there are
more. -/
structure IsoTpSender.At (tx : IsoTpSender) (msg : Bytes) (k : ℕ) : Prop where
  size : tx.sendSize.toNat = msg.length
  buffer : cells tx.sendBuffer 0 msg.length = msg
  offset : tx.sendOffset.toNat = 6 + k * 7
  more : 6 + k * 7 < msg.length
  sn : tx.sendSn.toNat = (k + 1) % 16

/-- **The invariant of the sender**: a transmission in progress is that of the message which was
announced last. -/
structure IsoTpSender.Sends (tx : IsoTpSender) (e : Emitter UInt8) : Prop where
  inprogress : tx.sendStatus = .inprogress → ∃ msg k, e.current = some (msg, k) ∧ tx.At msg k
  bufSize : tx.sendBufSize.toNat ≤ 4095

/-- A message whose transmission need not go on. -/
theorem sends_of_ne (h : tx.sendStatus ≠ .inprogress) (hbuf : tx.sendBufSize.toNat ≤ 4095) :
    tx.Sends e :=
  ⟨fun h' => absurd h' h, hbuf⟩

theorem sendDataLength_toNat (h : tx.At msg k) :
    tx.sendDataLength.toNat = min 7 (msg.length - (6 + k * 7)) := by
  have hle : tx.sendOffset ≤ tx.sendSize := by
    rw [UInt16.le_iff_toNat_le, h.size, h.offset]
    exact h.more.le
  have hsub : (tx.sendSize - tx.sendOffset).toNat = msg.length - (6 + k * 7) := by
    rw [UInt16.toNat_sub_of_le _ _ hle, h.size, h.offset]
  have hseven : tx.sendSize - tx.sendOffset > 7 ↔ 7 < msg.length - (6 + k * 7) := by
    rw [← hsub]
    exact UInt16.lt_iff_toNat_lt
  unfold IsoTpSender.sendDataLength
  dsimp only
  split_ifs with h7
  · exact (min_eq_left (hseven.1 h7).le).symm
  · rw [hsub, min_eq_right (Nat.not_lt.1 (mt hseven.2 h7))]

/-- The bytes in the next consecutive frame. -/
theorem cells_block (h : tx.At msg k) :
    cells tx.sendBuffer tx.sendOffset.toNat tx.sendDataLength.toNat =
      block 7 (msg.drop 6) k := by
  have hsplit := cells_add tx.sendBuffer 0 (6 + k * 7) (msg.length - (6 + k * 7))
  rw [Nat.add_sub_cancel' h.more.le, h.buffer, Nat.zero_add] at hsplit
  have hdrop : cells tx.sendBuffer (6 + k * 7) (msg.length - (6 + k * 7)) =
      (msg.drop 6).drop (k * 7) := by
    rw [List.drop_drop]
    conv_rhs => rw [hsplit]
    rw [List.drop_left' (length_cells _ _ _)]
  rw [block, ← hdrop, take_cells, h.offset, sendDataLength_toNat h]

/-- The next consecutive frame is the next piece. -/
theorem pieceOf_consecutiveFrame (env : IsoTpEnv) (h : tx.At msg k) :
    ∃ data, pieceOf (isotpSendConsecutiveFrame env tx).1.data =
        some (.next ((k + 1) % isoTpFormat.modulus) data) ∧
      block isoTpFormat.body (msg.drop isoTpFormat.head) k <+: data := by
  have hlength := length_block_le 7 (msg.drop 6) k
  have hdata : (isotpSendConsecutiveFrame env tx).1.data =
      padded (pciByte tsotpPciTypeConsecutiveFrame tx.sendSn :: block 7 (msg.drop 6) k) := by
    rw [isotpSendConsecutiveFrame, cells_block h]
  have hlen : (isotpSendConsecutiveFrame env tx).1.data.length = 8 := by
    rw [hdata]
    exact length_padded (by rw [List.length_cons]; omega)
  have htype := pciType_pciByte tsotpPciTypeConsecutiveFrame tx.sendSn (by decide)
  have hlow : (pciLow (pciByte tsotpPciTypeConsecutiveFrame tx.sendSn)).toNat = (k + 1) % 16 := by
    rw [pciLow_pciByte _ _ (by decide), h.sn, Nat.mod_mod]
  refine ⟨_, ?_, List.prefix_append (block 7 (msg.drop 6) k)
    (List.replicate (8 - (block 7 (msg.drop 6) k).length.succ) 0)⟩
  rw [pieceOf, if_neg (by omega)]
  dsimp only
  rw [hdata, padded_cons_getD, htype, hlow, if_neg (by decide), if_neg (by decide), if_pos rfl]
  rfl

/-! ### Sending -/

/-- The sender with a message in its buffer. -/
def IsoTpSender.load (tx : IsoTpSender) (payload : Bytes) : IsoTpSender :=
  { tx with
    sendSize := UInt16.ofNat payload.length
    sendOffset := 0
    sendBuffer := store tx.sendBuffer 0 payload }

/-- The sender after the first frame of a message. -/
def IsoTpSender.start (env : IsoTpEnv) (tx : IsoTpSender) (payload : Bytes) : IsoTpSender :=
  { tx.load payload with
    sendOffset := 6
    sendSn := 1
    sendBsRemain := 0
    sendStMin := 0
    sendWtfCount := 0
    sendTimerSt := env.isotpUserGetMs 0
    sendTimerBs := env.isotpUserGetMs 1 + isoTpDefaultResponseTimeout
    sendProtocolResult := .ok
    sendStatus := .inprogress }

/-- A message is refused, or sent in a single frame, or begun with a first frame. -/
theorem isotpSend_cases (env : IsoTpEnv) (tx : IsoTpSender) {payload : Bytes}
    (hsize : payload.length < 2 ^ 16) :
    (∃ ret, ret ≠ .ok ∧ isotpSend env tx payload = (ret, tx, none)) ∨
    (payload.length ≤ tx.sendBufSize.toNat ∧ tx.sendStatus ≠ .inprogress) ∧
      (payload.length < 8 ∧ isotpSend env tx payload = (env.isotpUserSendCan, tx.load payload,
          some (isotpSendSingleFrame (tx.load payload) tx.sendArbitrationId)) ∨
        8 ≤ payload.length ∧
          (env.isotpUserSendCan = .ok ∧ isotpSend env tx payload = (.ok, tx.start env payload,
              some (isotpSendFirstFrame env (tx.load payload) tx.sendArbitrationId).1) ∨
            env.isotpUserSendCan ≠ .ok ∧ isotpSend env tx payload = (env.isotpUserSendCan,
              tx.load payload,
              some (isotpSendFirstFrame env (tx.load payload) tx.sendArbitrationId).1))) := by
  have hofNat : (UInt16.ofNat payload.length).toNat = payload.length :=
    UInt16.toNat_ofNat_of_lt hsize
  by_cases hlarge : UInt16.ofNat payload.length > tx.sendBufSize
  · exact .inl ⟨.overflow, by decide, by rw [isotpSend, isotpSendWithId, if_pos hlarge]⟩
  by_cases hprogress : tx.sendStatus = .inprogress
  · refine .inl ⟨.inprogress, by decide, ?_⟩
    rw [isotpSend, isotpSendWithId, if_neg hlarge, if_pos hprogress]
  have hle : payload.length ≤ tx.sendBufSize.toNat := by
    rw [← hofNat]
    exact Nat.not_lt.1 (mt UInt16.lt_iff_toNat_lt.2 hlarge)
  have height : (tx.load payload).sendSize < 8 ↔ payload.length < 8 := by
    rw [UInt16.lt_iff_toNat_lt]
    change (UInt16.ofNat payload.length).toNat < 8 ↔ _
    rw [hofNat]
  have hsend : isotpSend env tx payload = if (tx.load payload).sendSize < 8 then
        (env.isotpUserSendCan, tx.load payload,
          some (isotpSendSingleFrame (tx.load payload) tx.sendArbitrationId))
      else if env.isotpUserSendCan = .ok then
        (.ok, { (isotpSendFirstFrame env (tx.load payload) tx.sendArbitrationId).2 with
          sendBsRemain := 0
          sendStMin := 0
          sendWtfCount := 0
          sendTimerSt := env.isotpUserGetMs 0
          sendTimerBs := env.isotpUserGetMs 1 + isoTpDefaultResponseTimeout
          sendProtocolResult := .ok
          sendStatus := .inprogress },
          some (isotpSendFirstFrame env (tx.load payload) tx.sendArbitrationId).1)
      else (env.isotpUserSendCan,
        (isotpSendFirstFrame env (tx.load payload) tx.sendArbitrationId).2,
        some (isotpSendFirstFrame env (tx.load payload) tx.sendArbitrationId).1) := by
    rw [isotpSend, isotpSendWithId, if_neg hlarge, if_neg hprogress]
    rfl
  refine .inr ⟨⟨hle, hprogress⟩, ?_⟩
  by_cases hshort : payload.length < 8
  · rw [if_pos (height.2 hshort)] at hsend
    exact .inl ⟨hshort, hsend⟩
  rw [if_neg (mt height.1 hshort)] at hsend
  refine .inr ⟨Nat.not_lt.1 hshort, ?_⟩
  by_cases hok : env.isotpUserSendCan = .ok
  · rw [if_pos hok] at hsend
    refine .inl ⟨hok, hsend.trans ?_⟩
    rw [isotpSendFirstFrame, if_pos hok]
    rfl
  · rw [if_neg hok] at hsend
    refine .inr ⟨hok, hsend.trans ?_⟩
    rw [isotpSendFirstFrame, if_neg hok]

/-- The piece of a message in a frame that was taken. -/
def takenPiece (frame : Option CanFrame) : Option (Piece UInt8) :=
  frame.bind fun frame => pieceOf frame.data

theorem IsoTpEnv.taken_none (env : IsoTpEnv) : env.taken none = none := by
  unfold IsoTpEnv.taken
  split_ifs <;> rfl

theorem load_size (tx : IsoTpSender) {payload : Bytes} (hsize : payload.length < 2 ^ 16) :
    (tx.load payload).sendSize.toNat = payload.length :=
  UInt16.toNat_ofNat_of_lt hsize

theorem load_buffer (tx : IsoTpSender) (payload : Bytes) :
    cells (tx.load payload).sendBuffer 0 payload.length = payload :=
  cells_store tx.sendBuffer 0 payload

theorem path_single {e e' : Emitter UInt8} {p : Piece UInt8} (h : Emit isoTpFormat e p e') :
    Runs.Path (Emit isoTpFormat) e [p] e' :=
  .cons h (.nil _)

/-- **A message that is accepted is announced.** -/
theorem sends_isotpSend (env : IsoTpEnv) {payload : Bytes} (h : tx.Sends e)
    (hsize : payload.length < 2 ^ 16) :
    ∃ e', (isotpSend env tx payload).2.1.Sends e' ∧
      Runs.Path (Emit isoTpFormat) e
        (takenPiece (env.taken (isotpSend env tx payload).2.2)).toList e' ∧
      e'.sent = e.sent ++
        if (isotpSend env tx payload).1 = .ok ∧ payload ≠ [] then [payload] else [] := by
  rcases isotpSend_cases env tx hsize with ⟨ret, hret, heq⟩ |
    ⟨⟨hle, hidle⟩, ⟨hshort, heq⟩ | ⟨hlong, ⟨hok, heq⟩ | ⟨hfail, heq⟩⟩⟩
  · rw [heq, IsoTpEnv.taken_none, if_neg (fun h => hret h.1), List.append_nil]
    exact ⟨e, h, .nil e, rfl⟩
  · have hidle' : (tx.load payload).sendStatus ≠ .inprogress := hidle
    rw [heq, IsoTpEnv.taken]
    dsimp only
    by_cases hok : env.isotpUserSendCan = .ok
    · have hpiece := pieceOf_singleFrame tx.sendArbitrationId (load_size tx hsize)
        (load_buffer tx payload) (Nat.le_of_lt_succ hshort)
      rw [if_pos hok, takenPiece, Option.bind_some, hpiece]
      by_cases hempty : payload = []
      · rw [if_pos hempty, if_neg (fun h => h.2 hempty), List.append_nil]
        exact ⟨e, sends_of_ne hidle' h.bufSize, .nil e, rfl⟩
      · rw [if_neg hempty, if_pos ⟨hok, hempty⟩]
        exact ⟨⟨e.sent ++ [payload], none⟩, sends_of_ne hidle' h.bufSize,
          path_single (.whole payload), rfl⟩
    · rw [if_neg hok, if_neg (fun h => hok h.1), List.append_nil]
      exact ⟨e, sends_of_ne hidle' h.bufSize, .nil e, rfl⟩
  · have hpiece := pieceOf_firstFrame env tx.sendArbitrationId (load_size tx hsize)
      (load_buffer tx payload) hlong (hle.trans h.bufSize)
    rw [heq, IsoTpEnv.taken, if_pos hok, if_pos ⟨rfl, by rintro rfl; simp at hlong⟩]
    refine ⟨⟨e.sent ++ [payload], some (payload, 0)⟩, ⟨fun _ => ⟨payload, 0, rfl, ?_⟩, h.bufSize⟩,
      ?_, rfl⟩
    · exact ⟨load_size tx hsize, load_buffer tx payload, rfl, by omega, rfl⟩
    · dsimp only
      rw [takenPiece, Option.bind_some, hpiece]
      exact path_single (.first payload (show 6 < payload.length by omega))
  · have hidle' : (tx.load payload).sendStatus ≠ .inprogress := hidle
    rw [heq, IsoTpEnv.taken, if_neg hfail, if_neg (fun h => hfail h.1), List.append_nil]
    exact ⟨e, sends_of_ne hidle' h.bufSize, .nil e, rfl⟩

/-- What is not in progress is forgotten; the rest depends on the message alone. -/
theorem IsoTpSender.Sends.congr (h : tx.Sends e)
    (hstatus : tx'.sendStatus = .inprogress → tx.sendStatus = .inprogress)
    (hsize : tx'.sendSize = tx.sendSize) (hbuffer : tx'.sendBuffer = tx.sendBuffer)
    (hoffset : tx'.sendOffset = tx.sendOffset) (hsn : tx'.sendSn = tx.sendSn)
    (hbuf : tx'.sendBufSize = tx.sendBufSize) : tx'.Sends e := by
  refine ⟨fun h' => ?_, hbuf ▸ h.bufSize⟩
  obtain ⟨msg, k, hcurrent, hat⟩ := h.inprogress (hstatus h')
  exact ⟨msg, k, hcurrent, by rw [hsize]; exact hat.size, by rw [hbuffer]; exact hat.buffer,
    by rw [hoffset]; exact hat.offset, hat.more, by rw [hsn]; exact hat.sn⟩

/-- A flow control frame does not change what is sent. -/
theorem sends_onFlowControlFrame (h : tx.Sends e) (message : Bytes) (len : ℕ) :
    (onFlowControlFrame env tx message len).Sends e := by
  unfold onFlowControlFrame
  dsimp only
  split_ifs
  · exact h
  · exact h
  · exact sends_of_ne (by simp) h.bufSize
  · exact sends_of_ne (by simp) h.bufSize
  all_goals exact h.congr id rfl rfl rfl rfl rfl

theorem sends_pollTimeoutBs (h : tx.Sends e) : (pollTimeoutBs env tx).Sends e := by
  unfold pollTimeoutBs
  split_ifs
  · exact sends_of_ne (by simp) h.bufSize
  · exact h

/-- The sender after a consecutive frame of its message. -/
def IsoTpSender.goOn (env : IsoTpEnv) (tx : IsoTpSender) : IsoTpSender :=
  { tx with
    sendOffset := tx.sendOffset + tx.sendDataLength
    sendSn := nextSn tx.sendSn
    sendBsRemain := if tx.sendBsRemain ≠ isotpInvalidBs then tx.sendBsRemain - 1
      else tx.sendBsRemain
    sendTimerBs := env.isotpUserGetMs 1 + isoTpDefaultResponseTimeout
    sendTimerSt := env.isotpUserGetMs 2 + tx.sendStMin.toUInt32 }

/-- A poll sends nothing, or a consecutive frame, which may be the last one and may be lost. -/
theorem pollContinue_cases (env : IsoTpEnv) (tx : IsoTpSender) :
    tx.maySend env = false ∧ pollContinue env tx = (tx, none) ∨
    tx.maySend env = true ∧
      (env.isotpUserSendCan = .ok ∧
          pollContinue env tx = (if (tx.goOn env).sendOffset ≥ tx.sendSize then
            { tx.goOn env with sendStatus := .idle } else tx.goOn env,
            some (isotpSendConsecutiveFrame env tx).1) ∨
        env.isotpUserSendCan ≠ .ok ∧ pollContinue env tx = ({ tx with sendStatus := .error },
          some (isotpSendConsecutiveFrame env tx).1)) := by
  rcases hmay : tx.maySend env with _ | _
  · exact .inl ⟨rfl, by rw [pollContinue, hmay]; rfl⟩
  refine .inr ⟨rfl, ?_⟩
  by_cases hok : env.isotpUserSendCan = .ok
  · refine .inl ⟨hok, ?_⟩
    rw [pollContinue, hmay, if_pos rfl, isotpSendConsecutiveFrame, if_pos hok]
    exact if_pos hok
  · refine .inr ⟨hok, ?_⟩
    rw [pollContinue, hmay, if_pos rfl, isotpSendConsecutiveFrame, if_neg hok]
    exact if_neg hok

theorem goOn_at (h : tx.At msg k) (hmore : 6 + (k + 1) * 7 < msg.length) :
    (tx.goOn env).At msg (k + 1) := by
  have hsn : tx.sendSn < 16 := UInt8.lt_iff_toNat_lt.2 (by
    rw [h.sn]
    exact Nat.mod_lt _ (by decide))
  refine ⟨h.size, h.buffer, ?_, hmore, ?_⟩
  · have hsize := tx.sendSize.toNat_lt
    have hlength := sendDataLength_toNat h
    refine (UInt16.toNat_add _ _).trans ?_
    rw [h.size] at hsize
    rw [h.offset, hlength, Nat.mod_eq_of_lt (by omega)]
    omega
  · refine (nextSn_toNat hsn).trans ?_
    rw [h.sn]
    omega

/-- The offset after the last consecutive frame. -/
theorem goOn_offset_ge (h : tx.At msg k) :
    (tx.goOn env).sendOffset ≥ tx.sendSize ↔ ¬6 + (k + 1) * 7 < msg.length := by
  have hoffset : (tx.goOn env).sendOffset.toNat =
      6 + k * 7 + min 7 (msg.length - (6 + k * 7)) := by
    have hsize := tx.sendSize.toNat_lt
    have hmore := h.more
    refine (UInt16.toNat_add _ _).trans ?_
    rw [h.size] at hsize
    rw [h.offset, sendDataLength_toNat h, Nat.mod_eq_of_lt (by omega)]
  rw [ge_iff_le, UInt16.le_iff_toNat_le, hoffset, h.size]
  have hmore := h.more
  omega

theorem sends_pollContinue (env : IsoTpEnv) (h : tx.Sends e)
    (hprogress : tx.sendStatus = .inprogress) :
    ∃ e', (pollContinue env tx).1.Sends e' ∧
      Runs.Path (Emit isoTpFormat) e
        (takenPiece (env.taken (pollContinue env tx).2)).toList e' ∧ e'.sent = e.sent := by
  rcases pollContinue_cases env tx with ⟨-, heq⟩ | ⟨-, ⟨hok, heq⟩ | ⟨hfail, heq⟩⟩
  · rw [heq, IsoTpEnv.taken_none]
    exact ⟨e, h, .nil e, rfl⟩
  · obtain ⟨msg, k, hcurrent, hat⟩ := h.inprogress hprogress
    obtain ⟨data, hpiece, hdata⟩ := pieceOf_consecutiveFrame env hat
    rw [heq, IsoTpEnv.taken, if_pos hok, takenPiece, Option.bind_some, hpiece]
    refine ⟨⟨e.sent, some (msg, k + 1)⟩, ?_,
      path_single (.next msg data k hcurrent hat.more hdata), rfl⟩
    by_cases hmore : 6 + (k + 1) * 7 < msg.length
    · rw [if_neg (not_not.2 hmore ∘ (goOn_offset_ge hat).1)]
      exact ⟨fun _ => ⟨msg, k + 1, rfl, goOn_at hat hmore⟩, h.bufSize⟩
    · rw [if_pos ((goOn_offset_ge hat).2 hmore)]
      exact sends_of_ne (by simp) h.bufSize
  · rw [heq, IsoTpEnv.taken, if_neg hfail]
    exact ⟨e, sends_of_ne (by simp) h.bufSize, .nil e, rfl⟩

/-- **A poll emits the next piece, or nothing.** -/
theorem sends_pollSender (env : IsoTpEnv) (h : tx.Sends e) :
    ∃ e', (pollSender env tx).1.Sends e' ∧
      Runs.Path (Emit isoTpFormat) e
        (takenPiece (env.taken (pollSender env tx).2)).toList e' ∧ e'.sent = e.sent := by
  by_cases hprogress : tx.sendStatus = .inprogress
  · obtain ⟨e', hsends, hpath, hsent⟩ := sends_pollContinue env h hprogress
    rw [pollSender, if_pos hprogress]
    exact ⟨e', sends_pollTimeoutBs hsends, hpath, hsent⟩
  · rw [pollSender, if_neg hprogress, IsoTpEnv.taken_none]
    exact ⟨e, h, .nil e, rfl⟩

/-! ### Calls -/

variable {link link' : IsoTpLink} {ev : IsoTpEvent}

/-- The piece of a message in the frame that a call sends. -/
def IsoTpEvent.emitted? (ev : IsoTpEvent) : Option (Piece UInt8) := takenPiece ev.sent

/-- The message that `isotp_send` accepts. A message without any bytes does not count. -/
def IsoTpEvent.accepted? (ev : IsoTpEvent) : Option Bytes :=
  match ev.op with
  | .send payload => if ev.ret = .ok ∧ payload ≠ [] then some payload else none
  | _ => none

/-- The frames that a receiver sends are flow control frames. -/
theorem isotpOnCanMessage_frame (env : IsoTpEnv) (link : IsoTpLink) (data : Bytes) :
    takenPiece (env.taken (isotpOnCanMessage env link data).2) = none := by
  have hflow (flowStatus blockSize stMinMs : UInt8) : takenPiece (env.taken (some
      (isotpSendFlowControl link.tx.sendArbitrationId flowStatus blockSize stMinMs))) = none := by
    unfold IsoTpEnv.taken
    split_ifs
    · exact pieceOf_flowControl _ _ _ _
    · rfl
  have hnone : takenPiece (env.taken none) = none := by
    rw [env.taken_none]
    rfl
  rcases isotpOnCanMessage_cases env link data with ⟨heq, -⟩ |
    ⟨hlen, -, ⟨-, heq⟩ | ⟨-, heq⟩ | ⟨-, heq⟩ | ⟨-, heq⟩⟩
  · rw [heq, hnone]
  · rw [heq, hnone]
  · rw [heq]
    rcases onFirstFrame_cases env link.rx link.tx.sendArbitrationId data with ⟨-, heq⟩ |
      ⟨-, heq⟩ | ⟨-, heq⟩
    · rw [heq, hnone]
    · rw [heq, hflow]
    · rw [heq, hflow]
  · rw [heq]
    by_cases hprogress : link.rx.receiveStatus = .inprogress
    · rcases onConsecutiveFrame_cases env link.tx.sendArbitrationId hlen hprogress with
        ⟨-, heq⟩ | ⟨-, ⟨-, heq⟩ | ⟨-, ⟨-, heq⟩ | ⟨-, heq⟩⟩⟩
      · rw [heq, hnone]
      · rw [heq, hnone]
      · rw [heq, hnone]
      · rw [heq, IsoTpReceiver.nextBs]
        split_ifs
        · exact hflow _ _ _
        · exact hnone
    · rw [onConsecutiveFrame, if_pos hprogress, hnone]
  · rw [heq, hnone]

theorem sends_onCanMessage (h : link.tx.Sends e) (data : Bytes) :
    (isotpOnCanMessage env link data).1.tx.Sends e := by
  rcases isotpOnCanMessage_cases env link data with ⟨heq, -⟩ |
    ⟨-, -, ⟨-, heq⟩ | ⟨-, heq⟩ | ⟨-, heq⟩ | ⟨-, heq⟩⟩
  · rwa [heq]
  · rwa [heq]
  · rwa [heq]
  · rwa [heq]
  · rw [heq]
    exact sends_onFlowControlFrame h _ _

/-- **A call emits the pieces of messages that were accepted.** -/
theorem LinkStep.sends (h : LinkStep link ev link') (htx : link.tx.Sends e) :
    ∃ e', link'.tx.Sends e' ∧ Runs.Path (Emit isoTpFormat) e ev.emitted?.toList e' ∧
      e'.sent = e.sent ++ ev.accepted?.toList := by
  obtain ⟨env, ⟨payload, hsize, rfl, rfl⟩ | ⟨rfl, rfl⟩ | ⟨data, rfl, rfl⟩ |
    ⟨payloadSize, rfl, rfl⟩⟩ :=
    h.cases
  · obtain ⟨e', hsends, hpath, hsent⟩ := sends_isotpSend env htx hsize
    refine ⟨e', hsends, hpath, hsent.trans (congrArg (e.sent ++ ·) ?_)⟩
    unfold IsoTpEvent.accepted?
    dsimp only
    split_ifs <;> rfl
  · obtain ⟨e', hsends, hpath, hsent⟩ := sends_pollSender env htx
    exact ⟨e', hsends, hpath, by rw [hsent]; exact (List.append_nil _).symm⟩
  · refine ⟨e, sends_onCanMessage htx data, ?_, (List.append_nil _).symm⟩
    rw [IsoTpEvent.emitted?, isotpOnCanMessage_frame]
    exact .nil e
  · exact ⟨e, htx, .nil e, (List.append_nil _).symm⟩

/-! ### Sequences of calls -/

variable {link₀ : IsoTpLink} {tr : List IsoTpEvent}

/-- The calls emit the pieces of the messages that were accepted. -/
theorem LinkRun.emits (h : LinkRun link₀ tr link) (h₀ : link₀.tx.sendStatus = .idle)
    (hbuf : link₀.tx.sendBufSize.toNat ≤ 4095) :
    ∃ e, EmitRun isoTpFormat (tr.filterMap IsoTpEvent.emitted?) e ∧ link.tx.Sends e ∧
      e.sent = tr.filterMap IsoTpEvent.accepted? := by
  induction h with
  | start h =>
    subst h
    exact ⟨⟨[], none⟩, .start rfl, sends_of_ne (by rw [h₀]; decide) hbuf, rfl⟩
  | snoc _ hs ih =>
    obtain ⟨e, hemits, hsends, hsent⟩ := ih
    obtain ⟨e', hsends', hpath, hsent'⟩ := hs.sends hsends
    refine ⟨e', ?_, hsends', ?_⟩
    · rw [filterMap_snoc]
      exact hemits.append hpath
    · rw [filterMap_snoc, hsent', hsent]

end EcuUpgrade
