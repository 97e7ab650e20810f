import EcuUpgrade.IsoTp.Link
import EcuUpgrade.Lib.Segmentation
import Mathlib.Data.List.Forall2

/-!
# The receiver of a link

Whatever frames arrive and however the calls of a link are mixed, its receiver collects the pieces
of messages as `Collector` does. It stays within its buffer as soon as there is room for a single
frame, whose length it does not compare with the size of the buffer.

## Main definitions

* `pieceOf`: the piece of a message in a frame.
* `IsoTpLink.collector`: what the receiver holds.
* `IsoTpLink.Receiving`: the invariant of the receiver.

## Main results

* `collector_onCanMessage`: a frame is taken as its piece.
* `LinkStep.collector`: a call is a step of the collector.
-/

namespace EcuUpgrade

open Memory Runs Segmentation

/-! ### Pieces -/

/-- The numbers of bytes in a first frame and in a consecutive frame; sequence numbers have 4
bits. -/
def isoTpFormat : Format := ⟨6, 7, 16⟩

/-- The piece of a message in a frame. There is none in a flow control frame, and none in a frame
that is dropped because of its length. -/
def pieceOf (data : Bytes) : Option (Piece UInt8) :=
  if data.length < 2 ∨ data.length > 8 then none
  else
    let type := pciType (data.getD 0 0)
    let low := (pciLow (data.getD 0 0)).toNat
    if type = isotpPciTypeSingle then
      if low = 0 ∨ low > data.length - 1 then none else some (.whole ((data.drop 1).take low))
    else if type = isotpPciTypeFirstFrame then
      let total := low * 256 + (data.getD 1 0).toNat
      if data.length ≠ 8 ∨ total ≤ 7 then none else some (.first total (data.drop 2))
    else if type = tsotpPciTypeConsecutiveFrame then some (.next low (data.drop 1))
    else none

/-- What a receiver holds. -/
def IsoTpReceiver.collector (rx : IsoTpReceiver) : Collector UInt8 :=
  match rx.receiveStatus with
  | .idle => .empty
  | .inprogress => .collecting rx.receiveSize.toNat
      (cells rx.receiveBuffer 0 rx.receiveOffset.toNat) rx.receiveSn.toNat
  | .full => .complete (cells rx.receiveBuffer 0 rx.receiveSize.toNat)

/-- The number of bytes for which there is room in the receive buffer. -/
abbrev IsoTpReceiver.limit (rx : IsoTpReceiver) : ℕ := rx.receiveBufSize.toNat

/-- **The invariant of the receiver**: a message that is not complete fits into the buffer and has
more bytes than have been received. -/
structure IsoTpReceiver.Receiving (rx : IsoTpReceiver) : Prop where
  offset_lt : rx.receiveStatus = .inprogress → rx.receiveOffset < rx.receiveSize
  size_le : rx.receiveStatus = .inprogress → rx.receiveSize ≤ rx.receiveBufSize
  sn_lt : rx.receiveStatus = .inprogress → rx.receiveSn < 16

variable {env : IsoTpEnv} {rx : IsoTpReceiver} {data : Bytes} {id : UInt32}

theorem getD_padded (data : Bytes) (i : ℕ) : (padded data).getD i 0 = data.getD i 0 := by
  rw [padded, List.getD, List.getD]
  rcases Nat.lt_or_ge i data.length with hlt | hge
  · rw [List.getElem?_append_left hlt]
  · rw [List.getElem?_append_right hge, List.getElem?_eq_none hge, List.getElem?_replicate]
    split_ifs <;> rfl

theorem take_drop_padded {k n : ℕ} (h : k + n ≤ data.length) :
    ((padded data).drop k).take n = (data.drop k).take n := by
  rw [padded, List.drop_append_of_le_length (by omega),
    List.take_append_of_le_length (by rw [List.length_drop]; omega)]

theorem pciLow_lt (b : UInt8) : (pciLow b).toNat < 16 := by
  rw [pciLow, UInt8.toNat_and]
  exact Nat.lt_of_le_of_lt Nat.and_le_right (by decide)

/-! ### Frames -/

/-- A single frame is dropped, or its bytes are the message. -/
theorem onSingleFrame_cases (rx : IsoTpReceiver) (hlen : 2 ≤ data.length) :
    let low := pciLow (data.getD 0 0)
    (low.toNat = 0 ∨ low.toNat > data.length - 1) ∧
        onSingleFrame rx (padded data) data.length = rx.begin ∨
      ¬(low.toNat = 0 ∨ low.toNat > data.length - 1) ∧
        onSingleFrame rx (padded data) data.length = { rx.begin with
          receiveBuffer := store rx.receiveBuffer 0 ((data.drop 1).take low.toNat)
          receiveSize := low.toUInt16
          receiveStatus := .full } := by
  intro low
  have hzero : low = 0 ↔ low.toNat = 0 := by
    rw [← UInt8.toNat_inj]
    rfl
  by_cases hbad : low.toNat = 0 ∨ low.toNat > data.length - 1
  · have hret : isotpReceiveSingleFrame rx.begin (padded data) data.length =
        (.length, rx.begin) := by
      rw [isotpReceiveSingleFrame, getD_padded]
      exact if_pos (hbad.imp_left hzero.2)
    refine .inl ⟨hbad, ?_⟩
    rw [onSingleFrame, hret]
    rfl
  · have hret : isotpReceiveSingleFrame rx.begin (padded data) data.length =
        (.ok, { rx.begin with
          receiveBuffer := store rx.receiveBuffer 0 ((data.drop 1).take low.toNat)
          receiveSize := low.toUInt16 }) := by
      have htake : ((padded data).drop 1).take low.toNat = (data.drop 1).take low.toNat :=
        take_drop_padded (by omega)
      rw [isotpReceiveSingleFrame, getD_padded, ← htake]
      exact if_neg fun h => hbad (Or.imp_left hzero.1 h)
    refine .inr ⟨hbad, ?_⟩
    rw [onSingleFrame, hret]
    rfl

theorem total_toNat (data : Bytes) :
    (((pciLow (data.getD 0 0)).toUInt16 <<< 8) + (data.getD 1 0).toUInt16).toNat =
      (pciLow (data.getD 0 0)).toNat * 256 + (data.getD 1 0).toNat := by
  have hlow := pciLow_lt (data.getD 0 0)
  have hbyte := (data.getD 1 0).toNat_lt
  rw [UInt16.toNat_add, UInt16.toNat_shiftLeft, UInt8.toNat_toUInt16, UInt8.toNat_toUInt16]
  have height : (8 : UInt16).toNat % 16 = 8 := rfl
  rw [height, Nat.shiftLeft_eq]
  omega

/-- A first frame is dropped, announces too long a message, or begins one. -/
theorem onFirstFrame_cases (env : IsoTpEnv) (rx : IsoTpReceiver) (id : UInt32) (data : Bytes) :
    let size := ((pciLow (data.getD 0 0)).toUInt16 <<< 8) + (data.getD 1 0).toUInt16
    (data.length ≠ 8 ∨ size.toNat ≤ 7) ∧
        onFirstFrame env rx id (padded data) data.length = (rx.begin, none) ∨
      (data.length = 8 ∧ 7 < size.toNat ∧ rx.limit < size.toNat) ∧
        onFirstFrame env rx id (padded data) data.length = ({ rx with
          receiveProtocolResult := .bufferOvflw
          receiveStatus := .idle }, some (isotpSendFlowControl id pciFlowStatusOverflow 0 0)) ∨
      (data.length = 8 ∧ 7 < size.toNat ∧ size.toNat ≤ rx.limit) ∧
        onFirstFrame env rx id (padded data) data.length = ({ rx.begin with
          receiveBuffer := store rx.receiveBuffer 0 (data.drop 2)
          receiveSize := size
          receiveOffset := 6
          receiveSn := 1
          receiveStatus := .inprogress
          receiveBsCount := isoTpDefaultBlockSize
          receiveTimerCr := env.isotpUserGetMs 0 + isoTpDefaultResponseTimeout },
          some (isotpSendFlowControl id pciFlowStatusContinue isoTpDefaultBlockSize
            isoTpDefaultStMin)) := by
  intro size
  have hunfold : isotpReceiveFirstFrame rx.begin (padded data) data.length =
      if data.length ≠ 8 then (.length, rx.begin)
      else if size ≤ 7 then (.length, rx.begin)
      else if size > rx.receiveBufSize then (.overflow, rx.begin)
      else (.ok, { rx.begin with
        receiveBuffer := store rx.receiveBuffer 0 (((padded data).drop 2).take 6)
        receiveSize := size
        receiveOffset := 6
        receiveSn := 1 }) := by
    rw [isotpReceiveFirstFrame, getD_padded, getD_padded]
    rfl
  by_cases hlen : data.length = 8
  swap
  · refine .inl ⟨.inl hlen, ?_⟩
    rw [onFirstFrame, hunfold, if_pos hlen]
    rfl
  rw [if_neg (not_not.2 hlen)] at hunfold
  rcases Nat.lt_or_ge 7 size.toNat with hsize | hsize
  swap
  · refine .inl ⟨.inr hsize, ?_⟩
    rw [onFirstFrame, hunfold, if_pos (UInt16.le_iff_toNat_le.2 hsize)]
    rfl
  rw [if_neg (fun h => Nat.not_le.2 hsize (UInt16.le_iff_toNat_le.1 h))] at hunfold
  rcases Nat.lt_or_ge rx.limit size.toNat with hlimit | hlimit
  · refine .inr (.inl ⟨⟨hlen, hsize, hlimit⟩, ?_⟩)
    rw [onFirstFrame, hunfold, if_pos (UInt16.lt_iff_toNat_lt.2 hlimit)]
    rfl
  · refine .inr (.inr ⟨⟨hlen, hsize, hlimit⟩, ?_⟩)
    have htake : ((padded data).drop 2).take 6 = data.drop 2 := by
      rw [take_drop_padded (by omega), List.take_of_length_le (by rw [List.length_drop]; omega)]
    rw [onFirstFrame, hunfold,
      if_neg (fun h => Nat.not_lt.2 hlimit (UInt16.lt_iff_toNat_lt.1 h)), htake]
    rfl

theorem remainingBytes_toNat (h : rx.receiveOffset < rx.receiveSize) :
    rx.remainingBytes.toNat = min 7 (rx.receiveSize.toNat - rx.receiveOffset.toNat) := by
  have hsub : (rx.receiveSize - rx.receiveOffset).toNat =
      rx.receiveSize.toNat - rx.receiveOffset.toNat :=
    UInt16.toNat_sub_of_le _ _ (UInt16.le_of_lt h)
  have hseven : rx.receiveSize - rx.receiveOffset > 7 ↔
      7 < rx.receiveSize.toNat - rx.receiveOffset.toNat := by
    rw [← hsub]
    exact UInt16.lt_iff_toNat_lt
  unfold IsoTpReceiver.remainingBytes
  dsimp only
  split_ifs with h7
  · exact (min_eq_left (hseven.1 h7).le).symm
  · rw [hsub, min_eq_right (Nat.not_lt.1 (mt hseven.2 h7))]

theorem nextSn_toNat {sn : UInt8} (h : sn < 16) : (nextSn sn).toNat = (sn.toNat + 1) % 16 := by
  have hlt : sn.toNat < 16 := UInt8.lt_iff_toNat_lt.1 h
  have hadd : (sn + 1).toNat = sn.toNat + 1 := by
    rw [UInt8.toNat_add]
    exact Nat.mod_eq_of_lt (by change sn.toNat + 1 < 256; omega)
  have hover : sn + 1 > 0x0F ↔ 15 < sn.toNat + 1 := by
    rw [← hadd]
    exact UInt8.lt_iff_toNat_lt
  unfold nextSn
  split_ifs with h15
  · have : sn.toNat = 15 := by
      have := hover.1 h15
      omega
    rw [this]
    rfl
  · rw [hadd, Nat.mod_eq_of_lt]
    have := mt hover.2 h15
    omega

/-- The receiver when the bytes of a consecutive frame are in its buffer. -/
def IsoTpReceiver.goOn (env : IsoTpEnv) (rx : IsoTpReceiver) (data : Bytes) : IsoTpReceiver :=
  { rx with
    receiveBuffer := store rx.receiveBuffer rx.receiveOffset.toNat
      ((data.drop 1).take rx.remainingBytes.toNat)
    receiveOffset := rx.receiveOffset + rx.remainingBytes
    receiveSn := nextSn rx.receiveSn
    receiveTimerCr := env.isotpUserGetMs 0 + isoTpDefaultResponseTimeout }

/-- What is left of a block when a consecutive frame was received, and the flow control frame that
begins the next one. -/
def IsoTpReceiver.nextBs (rx : IsoTpReceiver) (id : UInt32) : UInt8 × Option CanFrame :=
  if rx.receiveBsCount - 1 = 0 then
    (isoTpDefaultBlockSize, some (isotpSendFlowControl id pciFlowStatusContinue
      isoTpDefaultBlockSize isoTpDefaultStMin))
  else (rx.receiveBsCount - 1, none)

/-- A consecutive frame is out of order, too short, the last one, or a further one. -/
theorem onConsecutiveFrame_cases (env : IsoTpEnv) (id : UInt32) (hlen : 2 ≤ data.length)
    (hprogress : rx.receiveStatus = .inprogress) :
    rx.receiveSn ≠ pciLow (data.getD 0 0) ∧
        onConsecutiveFrame env rx id (padded data) data.length = ({ rx with
          receiveProtocolResult := .wrongSn
          receiveStatus := .idle }, none) ∨
      rx.receiveSn = pciLow (data.getD 0 0) ∧
        (rx.remainingBytes.toNat > data.length - 1 ∧
            onConsecutiveFrame env rx id (padded data) data.length = (rx, none) ∨
          rx.remainingBytes.toNat ≤ data.length - 1 ∧
            ((rx.goOn env data).receiveOffset ≥ rx.receiveSize ∧
                onConsecutiveFrame env rx id (padded data) data.length =
                  ({ rx.goOn env data with receiveStatus := .full }, none) ∨
              ¬(rx.goOn env data).receiveOffset ≥ rx.receiveSize ∧
                onConsecutiveFrame env rx id (padded data) data.length =
                  ({ rx.goOn env data with receiveBsCount := (rx.nextBs id).1 },
                    (rx.nextBs id).2))) := by
  by_cases hsn : rx.receiveSn = pciLow (data.getD 0 0)
  swap
  · have hret : isotpReceiveConsecutiveFrame rx (padded data) data.length = (.wrongSn, rx) := by
      rw [isotpReceiveConsecutiveFrame, getD_padded]
      exact if_pos hsn
    refine .inl ⟨hsn, ?_⟩
    rw [onConsecutiveFrame, if_neg (not_not.2 hprogress), hret]
    rfl
  refine .inr ⟨hsn, ?_⟩
  by_cases hshort : rx.remainingBytes.toNat > data.length - 1
  · have hret : isotpReceiveConsecutiveFrame rx (padded data) data.length = (.length, rx) := by
      rw [isotpReceiveConsecutiveFrame, getD_padded, if_neg (not_not.2 hsn)]
      exact if_pos hshort
    refine .inl ⟨hshort, ?_⟩
    rw [onConsecutiveFrame, if_neg (not_not.2 hprogress), hret]
    rfl
  · have hret : isotpReceiveConsecutiveFrame rx (padded data) data.length =
        (.ok, { rx.goOn env data with receiveTimerCr := rx.receiveTimerCr }) := by
      have htake : ((padded data).drop 1).take rx.remainingBytes.toNat =
          (data.drop 1).take rx.remainingBytes.toNat := take_drop_padded (by omega)
      rw [isotpReceiveConsecutiveFrame, getD_padded, if_neg (not_not.2 hsn), if_neg hshort, htake]
      rfl
    refine .inr ⟨Nat.not_lt.1 hshort, ?_⟩
    rw [onConsecutiveFrame, if_neg (not_not.2 hprogress), hret]
    by_cases hlast : (rx.goOn env data).receiveOffset ≥ rx.receiveSize
    · exact .inl ⟨hlast, if_pos hlast⟩
    · refine .inr ⟨hlast, (if_neg hlast).trans ?_⟩
      by_cases hbs : rx.receiveBsCount - 1 = 0
      · rw [IsoTpReceiver.nextBs, if_pos hbs]
        exact if_pos hbs
      · rw [IsoTpReceiver.nextBs, if_neg hbs]
        exact if_neg hbs

/-! ### The collector -/

theorem collector_of_inprogress (h : rx.receiveStatus = .inprogress) :
    rx.collector = .collecting rx.receiveSize.toNat
      (cells rx.receiveBuffer 0 rx.receiveOffset.toNat) rx.receiveSn.toNat := by
  rw [IsoTpReceiver.collector, h]

/-- What becomes of a receiver's contents when a frame arrives. -/
def IsoTpReceiver.collected (rx : IsoTpReceiver) (data : Bytes) : Collector UInt8 :=
  (pieceOf data).elim rx.collector (rx.collector.accept isoTpFormat rx.limit)

theorem collector_onSingleFrame (hlen : 2 ≤ data.length) (hlen' : data.length ≤ 8)
    (htype : pciType (data.getD 0 0) = isotpPciTypeSingle) :
    (onSingleFrame rx (padded data) data.length).collector = rx.collected data := by
  unfold IsoTpReceiver.collected pieceOf
  rw [if_neg (by omega)]
  dsimp only
  rw [if_pos htype]
  rcases onSingleFrame_cases rx hlen with ⟨hbad, heq⟩ | ⟨hgood, heq⟩
  · rw [heq, if_pos hbad]
    rfl
  · rw [heq, if_neg hgood]
    set low := pciLow (data.getD 0 0) with hlow
    have hlength : ((data.drop 1).take low.toNat).length = low.toUInt16.toNat := by
      rw [UInt8.toNat_toUInt16, List.length_take, List.length_drop]
      omega
    have hcells := cells_store rx.receiveBuffer 0 ((data.drop 1).take low.toNat)
    rw [hlength] at hcells
    exact congrArg Collector.complete hcells

theorem collector_onFirstFrame (hlen : 2 ≤ data.length) (hlen' : data.length ≤ 8)
    (htype : pciType (data.getD 0 0) = isotpPciTypeFirstFrame) :
    (onFirstFrame env rx id (padded data) data.length).1.collector = rx.collected data := by
  have hother : ¬pciType (data.getD 0 0) = isotpPciTypeSingle := by
    rw [htype]
    decide
  unfold IsoTpReceiver.collected pieceOf
  rw [if_neg (by omega)]
  dsimp only
  rw [if_neg hother, if_pos htype]
  have hsize := total_toNat data
  rcases onFirstFrame_cases env rx id data with ⟨hbad, heq⟩ | ⟨⟨h8, h7, hlimit⟩, heq⟩ |
    ⟨⟨h8, h7, hlimit⟩, heq⟩
  · rw [heq, if_pos (by rwa [hsize] at hbad)]
    rfl
  all_goals
    rw [hsize] at h7 hlimit
    rw [heq, if_neg (by omega)]
  · exact (if_pos hlimit).symm
  · have hlength : (data.drop 2).length = 6 := by rw [List.length_drop, h8]
    have hcells := cells_store rx.receiveBuffer 0 (data.drop 2)
    rw [hlength] at hcells
    refine Eq.trans ?_ (if_neg (Nat.not_lt.2 hlimit)).symm
    rw [← hsize]
    exact congrArg (Collector.collecting _ · _) hcells

theorem goOn_offset (env : IsoTpEnv) (data : Bytes) (h : rx.Receiving)
    (hprogress : rx.receiveStatus = .inprogress) :
    (rx.goOn env data).receiveOffset.toNat =
      rx.receiveOffset.toNat + rx.remainingBytes.toNat := by
  have hoffset : rx.receiveOffset.toNat < rx.receiveSize.toNat :=
    UInt16.lt_iff_toNat_lt.1 (h.offset_lt hprogress)
  have hsize := rx.receiveSize.toNat_lt
  have hremaining := remainingBytes_toNat (h.offset_lt hprogress)
  exact (UInt16.toNat_add _ _).trans (Nat.mod_eq_of_lt (by omega))

/-- The bytes of a consecutive frame are appended to those that have been received. -/
theorem cells_goOn (env : IsoTpEnv) (h : rx.Receiving)
    (hprogress : rx.receiveStatus = .inprogress)
    (hlong : rx.remainingBytes.toNat ≤ data.length - 1) :
    cells (rx.goOn env data).receiveBuffer 0 (rx.goOn env data).receiveOffset.toNat =
      cells rx.receiveBuffer 0 rx.receiveOffset.toNat ++
        (data.drop 1).take rx.remainingBytes.toNat := by
  have hlength : ((data.drop 1).take rx.remainingBytes.toNat).length =
      rx.remainingBytes.toNat := by
    rw [List.length_take, List.length_drop]
    omega
  have happend := cells_store_append rx.receiveBuffer rx.receiveOffset.toNat
    ((data.drop 1).take rx.remainingBytes.toNat)
  rw [hlength] at happend
  rw [goOn_offset env data h hprogress]
  exact happend

theorem collector_onConsecutiveFrame (h : rx.Receiving) (hlen : 2 ≤ data.length)
    (hlen' : data.length ≤ 8) (htype : pciType (data.getD 0 0) = tsotpPciTypeConsecutiveFrame) :
    (onConsecutiveFrame env rx id (padded data) data.length).1.collector = rx.collected data := by
  have hsingle : ¬pciType (data.getD 0 0) = isotpPciTypeSingle := by
    rw [htype]
    decide
  have hfirst : ¬pciType (data.getD 0 0) = isotpPciTypeFirstFrame := by
    rw [htype]
    decide
  unfold IsoTpReceiver.collected pieceOf
  rw [if_neg (by omega)]
  dsimp only
  rw [if_neg hsingle, if_neg hfirst, if_pos htype, Option.elim_some]
  rcases hstatus : rx.receiveStatus with _ | _ | _
  · rw [onConsecutiveFrame, if_pos (by rw [hstatus]; decide), IsoTpReceiver.collector,
      IsoTpReceiver.collector]
    dsimp only
    rw [hstatus]
    rfl
  · -- the branches of the program are those of `accept`
    have hcollector := collector_of_inprogress hstatus
    have hbefore : rx.receiveOffset.toNat < rx.receiveSize.toNat :=
      UInt16.lt_iff_toNat_lt.1 (h.offset_lt hstatus)
    have hneeded := remainingBytes_toNat (h.offset_lt hstatus)
    have hsn : rx.receiveSn.toNat = (pciLow (data.getD 0 0)).toNat ↔
        rx.receiveSn = pciLow (data.getD 0 0) := UInt8.toNat_inj
    have hoffset := goOn_offset env data h hstatus
    rw [hcollector, Collector.accept, length_cells, List.length_drop, isoTpFormat, ← hneeded]
    rcases onConsecutiveFrame_cases env id hlen hstatus with ⟨hwrong, heq⟩ |
      ⟨hsame, ⟨hshort, heq⟩ | ⟨hlong, ⟨hlast, heq⟩ | ⟨hmore, heq⟩⟩⟩
    · rw [heq, if_pos (mt hsn.1 hwrong)]
      rfl
    · rw [heq, if_neg (not_not.2 (hsn.2 hsame)), if_pos hshort]
      exact hcollector
    · have hle : rx.receiveSize.toNat ≤ (rx.goOn env data).receiveOffset.toNat :=
        UInt16.le_iff_toNat_le.1 hlast
      rw [heq, if_neg (not_not.2 (hsn.2 hsame)), if_neg (Nat.not_lt.2 hlong),
        if_neg (by omega), ← cells_goOn env h hstatus hlong]
      have hall : (rx.goOn env data).receiveOffset.toNat = rx.receiveSize.toNat := by omega
      rw [hall]
      rfl
    · have hlt : (rx.goOn env data).receiveOffset.toNat < rx.receiveSize.toNat :=
        Nat.not_le.1 (mt UInt16.le_iff_toNat_le.2 hmore)
      rw [heq, if_neg (not_not.2 (hsn.2 hsame)), if_neg (Nat.not_lt.2 hlong),
        if_pos (by omega), ← cells_goOn env h hstatus hlong,
        ← nextSn_toNat (h.sn_lt hstatus)]
      exact collector_of_inprogress hstatus
  · rw [onConsecutiveFrame, if_pos (by rw [hstatus]; decide), IsoTpReceiver.collector,
      IsoTpReceiver.collector]
    dsimp only
    rw [hstatus]
    rfl

/-! ### The invariant -/

/-- What every call makes of a receiver. -/
structure IsoTpReceiver.Keeps (rx rx' : IsoTpReceiver) : Prop where
  receiving : rx'.Receiving
  bufSize : rx'.receiveBufSize = rx.receiveBufSize
  outside : ∀ i, max rx.limit 7 ≤ i → rx'.receiveBuffer i = rx.receiveBuffer i

theorem IsoTpReceiver.Keeps.refl (h : rx.Receiving) : rx.Keeps rx := ⟨h, rfl, fun _ _ => rfl⟩

/-- At most 7 bytes at the beginning of the buffer. -/
theorem store_of_room {i : ℕ} {bs : Bytes} (hi : max rx.limit 7 ≤ i) (hbs : bs.length ≤ 7) :
    store rx.receiveBuffer 0 bs i = rx.receiveBuffer i :=
  store_apply_of_outside (.inr (by omega))

theorem receiving_of_ne (h : rx.receiveStatus ≠ .inprogress) : rx.Receiving :=
  ⟨fun h' => absurd h' h, fun h' => absurd h' h, fun h' => absurd h' h⟩

theorem IsoTpReceiver.Receiving.begin (h : rx.Receiving) : rx.begin.Receiving :=
  ⟨h.offset_lt, h.size_le, h.sn_lt⟩

theorem keeps_onSingleFrame (h : rx.Receiving) (hlen : 2 ≤ data.length) (hlen' : data.length ≤ 8) :
    rx.Keeps (onSingleFrame rx (padded data) data.length) := by
  rcases onSingleFrame_cases rx hlen with ⟨-, heq⟩ | ⟨hgood, heq⟩
  · rw [heq]
    exact ⟨h.begin, rfl, fun _ _ => rfl⟩
  · rw [heq]
    have hlength := List.length_take_le (pciLow (data.getD 0 0)).toNat (data.drop 1)
    exact ⟨receiving_of_ne (by simp), rfl, fun i hi => store_of_room hi (by omega)⟩

theorem keeps_onFirstFrame (h : rx.Receiving) :
    rx.Keeps (onFirstFrame env rx id (padded data) data.length).1 := by
  rcases onFirstFrame_cases env rx id data with ⟨-, heq⟩ | ⟨-, heq⟩ | ⟨⟨h8, h7, hlimit⟩, heq⟩
  · rw [heq]
    exact ⟨h.begin, rfl, fun _ _ => rfl⟩
  · rw [heq]
    exact ⟨receiving_of_ne (by simp), rfl, fun _ _ => rfl⟩
  · rw [heq]
    have hlength : (data.drop 2).length = 6 := by rw [List.length_drop, h8]
    refine ⟨⟨fun _ => UInt16.lt_iff_toNat_lt.2 ?_, fun _ => UInt16.le_iff_toNat_le.2 hlimit,
      fun _ => (by decide : (1 : UInt8) < 16)⟩, rfl, fun i hi => store_of_room hi (by omega)⟩
    exact Nat.lt_of_le_of_lt (by decide : (6 : UInt16).toNat ≤ 7) h7

theorem keeps_onConsecutiveFrame (h : rx.Receiving) (hlen : 2 ≤ data.length) :
    rx.Keeps (onConsecutiveFrame env rx id (padded data) data.length).1 := by
  by_cases hprogress : rx.receiveStatus = .inprogress
  swap
  · rw [onConsecutiveFrame, if_pos hprogress]
    exact ⟨⟨h.offset_lt, h.size_le, h.sn_lt⟩, rfl, fun _ _ => rfl⟩
  have hoffset := goOn_offset env data h hprogress
  have hremaining := remainingBytes_toNat (h.offset_lt hprogress)
  have hbefore : rx.receiveOffset.toNat < rx.receiveSize.toNat :=
    UInt16.lt_iff_toNat_lt.1 (h.offset_lt hprogress)
  have hsize : rx.receiveSize.toNat ≤ rx.limit :=
    UInt16.le_iff_toNat_le.1 (h.size_le hprogress)
  have houtside (i : ℕ) (hi : max rx.limit 7 ≤ i) :
      (rx.goOn env data).receiveBuffer i = rx.receiveBuffer i := by
    refine store_apply_of_outside (.inr ?_)
    have hlength := List.length_take_le rx.remainingBytes.toNat (data.drop 1)
    omega
  rcases onConsecutiveFrame_cases env id hlen hprogress with ⟨-, heq⟩ |
    ⟨-, ⟨-, heq⟩ | ⟨-, ⟨-, heq⟩ | ⟨hmore, heq⟩⟩⟩
  · rw [heq]
    exact ⟨receiving_of_ne (by simp), rfl, fun _ _ => rfl⟩
  · rw [heq]
    exact .refl h
  · rw [heq]
    exact ⟨receiving_of_ne (by simp), rfl, houtside⟩
  · rw [heq]
    refine ⟨⟨fun _ => UInt16.lt_iff_toNat_lt.2 (Nat.not_le.1 (mt UInt16.le_iff_toNat_le.2 hmore)),
      fun _ => h.size_le hprogress, fun _ => UInt8.lt_iff_toNat_lt.2 ?_⟩, rfl, houtside⟩
    exact (nextSn_toNat (h.sn_lt hprogress)).trans_lt (Nat.mod_lt _ (by decide))

theorem keeps_pollReceiver (h : rx.Receiving) : rx.Keeps (pollReceiver env rx) := by
  unfold pollReceiver
  split_ifs
  · exact ⟨receiving_of_ne (by simp), rfl, fun _ _ => rfl⟩
  · exact .refl h
  · exact .refl h

theorem keeps_isotpReceive (payloadSize : UInt16) (h : rx.Receiving) :
    rx.Keeps (isotpReceive rx payloadSize).2 := by
  unfold isotpReceive
  dsimp only
  by_cases hfull : rx.receiveStatus ≠ .full
  · rw [if_pos hfull]
    exact .refl h
  · rw [if_neg hfull]
    exact ⟨receiving_of_ne (by simp), rfl, fun _ _ => rfl⟩

/-! ### Calls -/

variable {link link' : IsoTpLink} {ev : IsoTpEvent}

/-- A frame goes to the receiver, to the sender, or nowhere. -/
theorem isotpOnCanMessage_cases (env : IsoTpEnv) (link : IsoTpLink) (data : Bytes) :
    let id := link.tx.sendArbitrationId
    isotpOnCanMessage env link data = (link, none) ∧ pieceOf data = none ∧
        (2 ≤ data.length → data.length ≤ 8 →
          pciType (data.getD 0 0) ≠ isotpPciTypeFlowControlFrame) ∨
    2 ≤ data.length ∧ data.length ≤ 8 ∧
      (pciType (data.getD 0 0) = isotpPciTypeSingle ∧ isotpOnCanMessage env link data =
          ({ link with rx := onSingleFrame link.rx (padded data) data.length }, none) ∨
        pciType (data.getD 0 0) = isotpPciTypeFirstFrame ∧ isotpOnCanMessage env link data =
          ({ link with rx := (onFirstFrame env link.rx id (padded data) data.length).1 },
            (onFirstFrame env link.rx id (padded data) data.length).2) ∨
        pciType (data.getD 0 0) = tsotpPciTypeConsecutiveFrame ∧ isotpOnCanMessage env link data =
          ({ link with rx := (onConsecutiveFrame env link.rx id (padded data) data.length).1 },
            (onConsecutiveFrame env link.rx id (padded data) data.length).2) ∨
        (pciType (data.getD 0 0) = isotpPciTypeFlowControlFrame ∧ pieceOf data = none) ∧
          isotpOnCanMessage env link data =
            ({ link with tx := onFlowControlFrame env link.tx (padded data) data.length },
              none)) := by
  intro id
  unfold isotpOnCanMessage pieceOf
  dsimp only
  rw [getD_padded]
  by_cases hlen : data.length < 2 ∨ data.length > 8
  · rw [if_pos hlen, if_pos hlen]
    exact .inl ⟨rfl, rfl, by omega⟩
  rw [if_neg hlen, if_neg hlen]
  by_cases hsingle : pciType (data.getD 0 0) = isotpPciTypeSingle
  · rw [if_pos hsingle]
    exact .inr ⟨by omega, by omega, .inl ⟨hsingle, rfl⟩⟩
  by_cases hfirst : pciType (data.getD 0 0) = isotpPciTypeFirstFrame
  · rw [if_neg hsingle, if_pos hfirst]
    exact .inr ⟨by omega, by omega, .inr (.inl ⟨hfirst, rfl⟩)⟩
  by_cases hnext : pciType (data.getD 0 0) = tsotpPciTypeConsecutiveFrame
  · rw [if_neg hsingle, if_neg hfirst, if_pos hnext]
    exact .inr ⟨by omega, by omega, .inr (.inr (.inl ⟨hnext, rfl⟩))⟩
  rw [if_neg hsingle, if_neg hfirst, if_neg hnext, if_neg hsingle, if_neg hfirst, if_neg hnext]
  split_ifs with hflow
  · exact .inr ⟨by omega, by omega, .inr (.inr (.inr ⟨⟨hflow, rfl⟩, rfl⟩))⟩
  · exact .inl ⟨rfl, rfl, fun _ _ => hflow⟩

/-- **A frame is taken as its piece.** -/
theorem collector_onCanMessage (env : IsoTpEnv) (data : Bytes) (h : link.rx.Receiving) :
    (isotpOnCanMessage env link data).1.rx.collector = link.rx.collected data := by
  have hnone (hpiece : pieceOf data = none) : link.rx.collected data = link.rx.collector := by
    rw [IsoTpReceiver.collected, hpiece, Option.elim_none]
  rcases isotpOnCanMessage_cases env link data with ⟨heq, hpiece, -⟩ |
    ⟨hlen, hlen', ⟨htype, heq⟩ | ⟨htype, heq⟩ | ⟨htype, heq⟩ | ⟨⟨-, hpiece⟩, heq⟩⟩
  · rw [heq, hnone hpiece]
  · rw [heq, ← collector_onSingleFrame hlen hlen' htype]
  · rw [heq, ← collector_onFirstFrame hlen hlen' htype]
  · rw [heq, ← collector_onConsecutiveFrame h hlen hlen' htype]
  · rw [heq, hnone hpiece]

theorem keeps_onCanMessage (env : IsoTpEnv) (data : Bytes) (h : link.rx.Receiving) :
    link.rx.Keeps (isotpOnCanMessage env link data).1.rx := by
  rcases isotpOnCanMessage_cases env link data with ⟨heq, -⟩ |
    ⟨hlen, hlen', ⟨-, heq⟩ | ⟨-, heq⟩ | ⟨-, heq⟩ | ⟨-, heq⟩⟩
  · rw [heq]
    exact .refl h
  · rw [heq]
    exact keeps_onSingleFrame h hlen hlen'
  · rw [heq]
    exact keeps_onFirstFrame h
  · rw [heq]
    exact keeps_onConsecutiveFrame h hlen
  · rw [heq]
    exact .refl h

/-- The piece of a message in the frame that a call handles. -/
def IsoTpEvent.piece? (ev : IsoTpEvent) : Option (Piece UInt8) :=
  match ev.op with
  | .onCanMessage data => pieceOf data
  | _ => none

/-- The size of `payload` and the bytes that `isotp_receive` copied to it. -/
def IsoTpEvent.receipt? (ev : IsoTpEvent) : Option (UInt16 × Bytes) :=
  match ev.op, ev.ret with
  | .receive payloadSize, .ok => some (payloadSize, ev.payload)
  | _, _ => none

/-- The bytes copied to `payload` are those of a message for which there is room. -/
def Copies (receipt : UInt16 × Bytes) (msg : Bytes) : Prop := receipt.2 = msg.take receipt.1.toNat

theorem step_pollReceiver (env : IsoTpEnv) (rx : IsoTpReceiver) :
    ∃ cev : Event UInt8, Collector.Step isoTpFormat rx.limit rx.collector cev
      (pollReceiver env rx).collector ∧ cev.piece? = none ∧ cev.read? = none := by
  by_cases htimeout : rx.receiveStatus = .inprogress ∧
      isoTpTimeAfter (env.isotpUserGetMs 4) rx.receiveTimerCr = true
  · rw [pollReceiver, if_pos htimeout.1, if_pos htimeout.2, collector_of_inprogress htimeout.1]
    exact ⟨.timeout, .timeout _ _ _, rfl, rfl⟩
  · have hsame : pollReceiver env rx = rx := by
      unfold pollReceiver
      split_ifs with hprogress hafter
      · exact absurd ⟨hprogress, hafter⟩ htimeout
      · rfl
      · rfl
    rw [hsame]
    exact ⟨.silent, .silent _, rfl, rfl⟩

theorem step_isotpReceive (rx : IsoTpReceiver) (payloadSize : UInt16) :
    ∃ cev : Event UInt8, Collector.Step isoTpFormat rx.limit rx.collector cev
        (isotpReceive rx payloadSize).2.collector ∧ cev.piece? = none ∧
      Option.Rel Copies ((isotpReceive rx payloadSize).1.map (payloadSize, ·)) cev.read? := by
  by_cases hfull : rx.receiveStatus = .full
  · have hcollector : rx.collector = .complete (cells rx.receiveBuffer 0 rx.receiveSize.toNat) := by
      rw [IsoTpReceiver.collector, hfull]
    rw [isotpReceive, if_neg (not_not.2 hfull), hcollector]
    have hmin : (if rx.receiveSize > payloadSize then payloadSize else rx.receiveSize).toNat =
        min payloadSize.toNat rx.receiveSize.toNat := by
      split_ifs with hlt
      · exact (min_eq_left (UInt16.lt_iff_toNat_lt.1 hlt).le).symm
      · exact (min_eq_right (Nat.not_lt.1 (mt UInt16.lt_iff_toNat_lt.2 hlt))).symm
    refine ⟨.read _, .read _, rfl, .some ?_⟩
    rw [Copies, take_cells]
    exact congrArg (cells rx.receiveBuffer 0) hmin
  · rw [isotpReceive, if_pos hfull]
    exact ⟨.silent, .silent _, rfl, .none⟩

/-- **A call is a step of the collector.** -/
theorem LinkStep.collector (h : LinkStep link ev link') (hrx : link.rx.Receiving) :
    ∃ cev : Event UInt8, Collector.Step isoTpFormat link.rx.limit link.rx.collector cev
        link'.rx.collector ∧
      cev.piece? = ev.piece? ∧ Option.Rel Copies ev.receipt? cev.read? := by
  obtain ⟨env, ⟨payload, -, rfl, rfl⟩ | ⟨rfl, rfl⟩ | ⟨data, rfl, rfl⟩ | ⟨payloadSize, rfl, rfl⟩⟩ :=
    h.cases
  · exact ⟨.silent, .silent _, rfl, .none⟩
  · obtain ⟨cev, hstep, hpiece, hread⟩ := step_pollReceiver env link.rx
    refine ⟨cev, hstep, hpiece, ?_⟩
    rw [hread]
    exact .none
  · rw [collector_onCanMessage env data hrx, IsoTpReceiver.collected]
    rcases hpiece : pieceOf data with _ | p
    · exact ⟨.silent, .silent _, hpiece.symm, .none⟩
    · exact ⟨.piece p, .piece _ p, hpiece.symm, .none⟩
  · obtain ⟨cev, hstep, hpiece, hread⟩ := step_isotpReceive link.rx payloadSize
    refine ⟨cev, hstep, hpiece, ?_⟩
    rcases hgot : (isotpReceive link.rx payloadSize).1 with _ | bytes
    · rwa [hgot] at hread
    · rwa [hgot] at hread

theorem LinkStep.keeps (h : LinkStep link ev link') (hrx : link.rx.Receiving) :
    link.rx.Keeps link'.rx := by
  obtain ⟨env, ⟨payload, -, rfl, rfl⟩ | ⟨rfl, rfl⟩ | ⟨data, rfl, rfl⟩ | ⟨payloadSize, rfl, rfl⟩⟩ :=
    h.cases
  · exact .refl hrx
  · exact keeps_pollReceiver hrx
  · exact keeps_onCanMessage env data hrx
  · exact keeps_isotpReceive payloadSize hrx

/-! ### Sequences of calls -/

variable {link₀ : IsoTpLink} {tr : List IsoTpEvent}

theorem forall₂_toList {r : Option (UInt16 × Bytes)} {m : Option Bytes}
    (h : Option.Rel Copies r m) : List.Forall₂ Copies r.toList m.toList := by
  cases h with
  | some h => exact .cons h .nil
  | none => exact .nil

/-- The receiver after some calls. -/
theorem LinkRun.keeps (h : LinkRun link₀ tr link) (h₀ : link₀.rx.receiveStatus = .idle) :
    link₀.rx.Keeps link.rx := by
  induction h with
  | start h =>
    subst h
    exact .refl (receiving_of_ne (by rw [h₀]; decide))
  | snoc _ hs ih =>
    have hkeeps := hs.keeps ih.receiving
    refine ⟨hkeeps.receiving, hkeeps.bufSize.trans ih.bufSize, fun i hi => ?_⟩
    rw [hkeeps.outside i (by rwa [IsoTpReceiver.limit, ih.bufSize]), ih.outside i hi]

/-- The calls are a run of the collector. -/
theorem LinkRun.collector (h : LinkRun link₀ tr link) (h₀ : link₀.rx.receiveStatus = .idle) :
    ∃ cevs : List (Event UInt8),
      CollectorRun isoTpFormat link₀.rx.limit cevs link.rx.collector ∧
        taken cevs = tr.filterMap IsoTpEvent.piece? ∧
        List.Forall₂ Copies (tr.filterMap IsoTpEvent.receipt?) (reads cevs) := by
  induction h with
  | start h =>
    subst h
    exact ⟨[], .start (by rw [IsoTpReceiver.collector, h₀]), rfl, .nil⟩
  | snoc hrun hs ih =>
    obtain ⟨cevs, hcollector, htaken, hreads⟩ := ih
    have hkeeps := LinkRun.keeps hrun h₀
    obtain ⟨cev, hstep, hpiece, hread⟩ := hs.collector hkeeps.receiving
    rw [IsoTpReceiver.limit, hkeeps.bufSize] at hstep
    refine ⟨cevs ++ [cev], hcollector.snoc hstep, ?_, ?_⟩
    · rw [taken_snoc, filterMap_snoc, htaken, hpiece]
    · rw [reads_snoc, filterMap_snoc]
      exact List.rel_append hreads (forall₂_toList hread)

/-- **The receiver of a link puts messages together from the frames that arrive, and stays within
its buffer.** Only a single frame may be longer than the buffer. -/
theorem linkRun_reassembles (h₀ : link₀.rx.receiveStatus = .idle) (h : LinkRun link₀ tr link) :
    (∃ cevs : List (Event UInt8),
      CollectorRun isoTpFormat link₀.rx.limit cevs link.rx.collector ∧
        taken cevs = tr.filterMap IsoTpEvent.piece? ∧
        List.Forall₂ Copies (tr.filterMap IsoTpEvent.receipt?) (reads cevs)) ∧
      ∀ i, max link₀.rx.limit 7 ≤ i → link.rx.receiveBuffer i = link₀.rx.receiveBuffer i :=
  ⟨LinkRun.collector h h₀, (LinkRun.keeps h h₀).outside⟩

/-- Ten bytes arrive in a first frame and a consecutive one. -/
theorem linkRun_reassembles_ten :
    let link₀ := isotpInitLink 0x7E0 (fun _ => 0) 4095 (fun _ => 0) 4095
    ∃ tr link, LinkRun link₀ tr link ∧
      tr.filterMap IsoTpEvent.receipt? = [(4095, [1, 2, 3, 4, 5, 6, 7, 8, 9, 10])] ∧
      (∃ cevs : List (Event UInt8),
        CollectorRun isoTpFormat link₀.rx.limit cevs link.rx.collector ∧
          taken cevs = tr.filterMap IsoTpEvent.piece? ∧
          List.Forall₂ Copies (tr.filterMap IsoTpEvent.receipt?) (reads cevs)) ∧
      ∀ i, max link₀.rx.limit 7 ≤ i → link.rx.receiveBuffer i = link₀.rx.receiveBuffer i := by
  intro link₀
  have hrun : (follow IsoTpLink.next link₀
      ([.onCanMessage [0x10, 10, 1, 2, 3, 4, 5, 6], .onCanMessage [0x21, 7, 8, 9, 10],
        .receive 4095].map fun op => (⟨fun _ => 5, .ok⟩, op))).map
          (fun r => r.1.filterMap IsoTpEvent.receipt?) =
        some [(4095, [1, 2, 3, 4, 5, 6, 7, 8, 9, 10])] := by
    decide
  obtain ⟨⟨tr, link⟩, hfollow, hreceipts⟩ := Option.map_eq_some_iff.1 hrun
  have h := linkRun_of_follow hfollow
  exact ⟨tr, link, h, hreceipts, linkRun_reassembles rfl h⟩

end EcuUpgrade
