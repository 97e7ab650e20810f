import EcuUpgrade.Lib.Memory
import EcuUpgrade.Lib.Runs
import EcuUpgrade.Server.State

/-!
# The links of ISO-TP

A CAN frame carries at most 8 bytes. The ISO-TP part of `iso14229.c` cuts a message of up to 4095
bytes into a first frame and consecutive frames, and the receiver answers with flow control frames.
The two directions of a link share nothing but the callbacks: a call reads the clock at several
places, and it hands at most one frame to `isotp_user_send_can`.

Frames are padded to 8 bytes, as `ISO_TP_FRAME_PADDING` asks for.

## Main definitions

* `IsoTpLink`: the members of a link.
* `isotpSend`, `isotpPoll`, `isotpOnCanMessage`, `isotpReceive`: the four calls.
* `IsoTpOp`, `IsoTpEvent`, `IsoTpLink.perform`: the calls with what they return and send.
* `LinkStep`, `LinkRun`: sequences of calls.
-/

namespace EcuUpgrade

open Memory Runs

/-- `ISOTP_RET_OK` and the errors. -/
inductive IsoTpRet
  | ok
  | error
  | inprogress
  | overflow
  | wrongSn
  | noData
  | timeout
  | length
  deriving DecidableEq, Repr

/-- `IsoTpSendStatusTypes`. -/
inductive IsoTpSendStatus
  | idle
  | inprogress
  | error
  deriving DecidableEq, Repr

/-- `IsoTpReceiveStatusTypes`. -/
inductive IsoTpReceiveStatus
  | idle
  | inprogress
  | full
  deriving DecidableEq, Repr

/-- The network layer result codes that are assigned. -/
inductive IsoTpProtocolResult
  | ok
  | timeoutBs
  | timeoutCr
  | wrongSn
  | unexpPdu
  | wftOvrn
  | bufferOvflw
  deriving DecidableEq, Repr

/-- The sender parameters of `IsoTpLink`. -/
structure IsoTpSender where
  sendArbitrationId : UInt32
  sendBuffer : ℕ → UInt8
  sendBufSize : UInt16
  sendSize : UInt16
  sendOffset : UInt16
  sendSn : UInt8
  sendBsRemain : UInt16
  sendStMin : UInt8
  sendWtfCount : UInt8
  sendTimerSt : UInt32
  sendTimerBs : UInt32
  sendProtocolResult : IsoTpProtocolResult
  sendStatus : IsoTpSendStatus

/-- The receiver parameters of `IsoTpLink`. -/
structure IsoTpReceiver where
  receiveBuffer : ℕ → UInt8
  receiveBufSize : UInt16
  receiveSize : UInt16
  receiveOffset : UInt16
  receiveSn : UInt8
  receiveBsCount : UInt8
  receiveTimerCr : UInt32
  receiveProtocolResult : IsoTpProtocolResult
  receiveStatus : IsoTpReceiveStatus

/-- `IsoTpLink`, apart from the callbacks. -/
structure IsoTpLink where
  tx : IsoTpSender
  rx : IsoTpReceiver

/-- What the callbacks return during a call: `isotp_user_get_ms` at the places of its calls, in the
order of the text, and `isotp_user_send_can`. -/
structure IsoTpEnv where
  isotpUserGetMs : ℕ → UInt32
  isotpUserSendCan : IsoTpRet

/-- A frame that is handed to `isotp_user_send_can`. -/
structure CanFrame where
  arbitrationId : UInt32
  data : Bytes
  deriving DecidableEq, Repr

/-! ### Frames -/

/-- `IsoTpProtocolControlInformation`. -/
abbrev isotpPciTypeSingle : UInt8 := 0x0
abbrev isotpPciTypeFirstFrame : UInt8 := 0x1
abbrev tsotpPciTypeConsecutiveFrame : UInt8 := 0x2
abbrev isotpPciTypeFlowControlFrame : UInt8 := 0x3

/-- `IsoTpFlowStatus`. -/
abbrev pciFlowStatusContinue : UInt8 := 0x0
abbrev pciFlowStatusWait : UInt8 := 0x1
abbrev pciFlowStatusOverflow : UInt8 := 0x2

abbrev isoTpDefaultBlockSize : UInt8 := 8
abbrev isoTpDefaultStMin : UInt8 := 0
abbrev isoTpMaxWftNumber : UInt8 := 1
abbrev isoTpDefaultResponseTimeout : UInt32 := 100
abbrev isotpInvalidBs : UInt16 := 0xFFFF

/-- The byte with the bit field `type` and the bit field below it. -/
def pciByte (type low : UInt8) : UInt8 := (type <<< 4) ||| (low &&& 0x0F)

/-- The bit field `type` of a first byte. -/
def pciType (b : UInt8) : UInt8 := b >>> 4

/-- The bit field `SF_DL`, `FF_DL_high`, `SN` or `FS` of a first byte. -/
def pciLow (b : UInt8) : UInt8 := b &&& 0x0F

/-- The bytes of a frame, filled up with zeros. -/
def padded (bs : Bytes) : Bytes := bs ++ List.replicate (8 - bs.length) 0

/-- `IsoTpTimeAfter`. -/
def isoTpTimeAfter (a b : UInt32) : Bool := decide ((b - a).toInt32 < 0)

/-- `isotp_ms_to_st_min`. -/
def isotpMsToStMin (ms : UInt8) : UInt8 := if ms > 0x7F then 0x7F else ms

/-- `isotp_st_min_to_ms`. -/
def isotpStMinToMs (stMin : UInt8) : UInt8 :=
  if stMin ≥ 0xF1 ∧ stMin ≤ 0xF9 then 1 else if stMin ≤ 0x7F then stMin else 0

variable (env : IsoTpEnv) (tx : IsoTpSender) (rx : IsoTpReceiver)

/-! ### Sending frames -/

/-- The frame of `isotp_send_flow_control`. -/
def isotpSendFlowControl (id : UInt32) (flowStatus blockSize stMinMs : UInt8) : CanFrame :=
  ⟨id, padded
    [pciByte isotpPciTypeFlowControlFrame flowStatus, blockSize, isotpMsToStMin stMinMs]⟩

/-- The frame of `isotp_send_single_frame`. -/
def isotpSendSingleFrame (id : UInt32) : CanFrame :=
  ⟨id, padded (pciByte isotpPciTypeSingle tx.sendSize.toUInt8 ::
    cells tx.sendBuffer 0 tx.sendSize.toNat)⟩

/-- `isotp_send_first_frame`: its frame, and the sender. -/
def isotpSendFirstFrame (id : UInt32) : CanFrame × IsoTpSender :=
  (⟨id, pciByte isotpPciTypeFirstFrame ((tx.sendSize >>> 8) &&& 0x0F).toUInt8 ::
      tx.sendSize.toUInt8 :: cells tx.sendBuffer 0 6⟩,
    if env.isotpUserSendCan = .ok then
      { tx with sendOffset := tx.sendOffset + 6, sendSn := 1 }
    else tx)

/-- `data_length` in `isotp_send_consecutive_frame`. -/
def IsoTpSender.sendDataLength : UInt16 :=
  let dataLength := tx.sendSize - tx.sendOffset
  if dataLength > 7 then 7 else dataLength

/-- A sequence number after `++` and the test for an overflow of its 4 bits. -/
def nextSn (sn : UInt8) : UInt8 := if sn + 1 > 0x0F then 0 else sn + 1

/-- `isotp_send_consecutive_frame`: its frame, and the sender. -/
def isotpSendConsecutiveFrame : CanFrame × IsoTpSender :=
  (⟨tx.sendArbitrationId, padded (pciByte tsotpPciTypeConsecutiveFrame tx.sendSn ::
      cells tx.sendBuffer tx.sendOffset.toNat tx.sendDataLength.toNat)⟩,
    if env.isotpUserSendCan = .ok then
      { tx with
        sendOffset := tx.sendOffset + tx.sendDataLength
        sendSn := nextSn tx.sendSn }
    else tx)

/-! ### Receiving frames

`message` is the union with the `len` bytes of the frame, filled up with zeros. -/

/-- `isotp_receive_single_frame`. -/
def isotpReceiveSingleFrame (message : Bytes) (len : ℕ) : IsoTpRet × IsoTpReceiver :=
  let sfDl := pciLow (message.getD 0 0)
  if sfDl = 0 ∨ sfDl.toNat > len - 1 then (.length, rx)
  else (.ok, { rx with
    receiveBuffer := store rx.receiveBuffer 0 ((message.drop 1).take sfDl.toNat)
    receiveSize := sfDl.toUInt16 })

/-- `isotp_receive_first_frame`. -/
def isotpReceiveFirstFrame (message : Bytes) (len : ℕ) : IsoTpRet × IsoTpReceiver :=
  if len ≠ 8 then (.length, rx)
  else
    let payloadLength := ((pciLow (message.getD 0 0)).toUInt16 <<< 8) +
      (message.getD 1 0).toUInt16
    if payloadLength ≤ 7 then (.length, rx)
    else if payloadLength > rx.receiveBufSize then (.overflow, rx)
    else (.ok, { rx with
      receiveBuffer := store rx.receiveBuffer 0 ((message.drop 2).take 6)
      receiveSize := payloadLength
      receiveOffset := 6
      receiveSn := 1 })

/-- `remaining_bytes` in `isotp_receive_consecutive_frame`. -/
def IsoTpReceiver.remainingBytes : UInt16 :=
  let remainingBytes := rx.receiveSize - rx.receiveOffset
  if remainingBytes > 7 then 7 else remainingBytes

/-- `isotp_receive_consecutive_frame`. -/
def isotpReceiveConsecutiveFrame (message : Bytes) (len : ℕ) : IsoTpRet × IsoTpReceiver :=
  if rx.receiveSn ≠ pciLow (message.getD 0 0) then (.wrongSn, rx)
  else if rx.remainingBytes.toNat > len - 1 then (.length, rx)
  else (.ok, { rx with
    receiveBuffer := store rx.receiveBuffer rx.receiveOffset.toNat
      ((message.drop 1).take rx.remainingBytes.toNat)
    receiveOffset := rx.receiveOffset + rx.remainingBytes
    receiveSn := nextSn rx.receiveSn })

/-- `isotp_receive_flow_control_frame`. -/
def isotpReceiveFlowControlFrame (len : ℕ) : IsoTpRet := if len < 3 then .length else .ok

/-! ### The calls

They return what becomes of the sender or the receiver, and the frame that is handed to
`isotp_user_send_can`, if any. -/

/-- `isotp_send_with_id`. -/
def isotpSendWithId (id : UInt32) (payload : Bytes) : IsoTpRet × IsoTpSender × Option CanFrame :=
  let size := UInt16.ofNat payload.length
  if size > tx.sendBufSize then (.overflow, tx, none)
  else if tx.sendStatus = .inprogress then (.inprogress, tx, none)
  else
    let tx := { tx with
      sendSize := size
      sendOffset := 0
      sendBuffer := store tx.sendBuffer 0 payload }
    if tx.sendSize < 8 then (env.isotpUserSendCan, tx, some (isotpSendSingleFrame tx id))
    else
      let (frame, tx) := isotpSendFirstFrame env tx id
      if env.isotpUserSendCan = .ok then
        (.ok, { tx with
          sendBsRemain := 0
          sendStMin := 0
          sendWtfCount := 0
          sendTimerSt := env.isotpUserGetMs 0
          sendTimerBs := env.isotpUserGetMs 1 + isoTpDefaultResponseTimeout
          sendProtocolResult := .ok
          sendStatus := .inprogress }, some frame)
      else (env.isotpUserSendCan, tx, some frame)

/-- `isotp_send`. -/
def isotpSend (payload : Bytes) : IsoTpRet × IsoTpSender × Option CanFrame :=
  isotpSendWithId env tx tx.sendArbitrationId payload

/-- The protocol result when a new message begins. -/
def IsoTpReceiver.begin : IsoTpReceiver :=
  { rx with receiveProtocolResult := if rx.receiveStatus = .inprogress then .unexpPdu else .ok }

/-- `isotp_on_can_message`, for a single frame. -/
def onSingleFrame (message : Bytes) (len : ℕ) : IsoTpReceiver :=
  let (ret, rx) := isotpReceiveSingleFrame rx.begin message len
  if ret = .ok then { rx with receiveStatus := .full } else rx

/-- `isotp_on_can_message`, for a first frame. -/
def onFirstFrame (id : UInt32) (message : Bytes) (len : ℕ) : IsoTpReceiver × Option CanFrame :=
  let (ret, rx) := isotpReceiveFirstFrame rx.begin message len
  if ret = .overflow then
    ({ rx with receiveProtocolResult := .bufferOvflw, receiveStatus := .idle },
      some (isotpSendFlowControl id pciFlowStatusOverflow 0 0))
  else if ret = .ok then
    ({ rx with
        receiveStatus := .inprogress
        receiveBsCount := isoTpDefaultBlockSize
        receiveTimerCr := env.isotpUserGetMs 0 + isoTpDefaultResponseTimeout },
      some (isotpSendFlowControl id pciFlowStatusContinue isoTpDefaultBlockSize isoTpDefaultStMin))
  else (rx, none)

/-- `isotp_on_can_message`, for a consecutive frame. -/
def onConsecutiveFrame (id : UInt32) (message : Bytes) (len : ℕ) :
    IsoTpReceiver × Option CanFrame :=
  if rx.receiveStatus ≠ .inprogress then ({ rx with receiveProtocolResult := .unexpPdu }, none)
  else
    let (ret, rx) := isotpReceiveConsecutiveFrame rx message len
    if ret = .wrongSn then
      ({ rx with receiveProtocolResult := .wrongSn, receiveStatus := .idle }, none)
    else if ret = .ok then
      let rx := { rx with receiveTimerCr := env.isotpUserGetMs 0 + isoTpDefaultResponseTimeout }
      if rx.receiveOffset ≥ rx.receiveSize then ({ rx with receiveStatus := .full }, none)
      else
        let rx := { rx with receiveBsCount := rx.receiveBsCount - 1 }
        if rx.receiveBsCount = 0 then
          ({ rx with receiveBsCount := isoTpDefaultBlockSize },
            some (isotpSendFlowControl id pciFlowStatusContinue isoTpDefaultBlockSize
              isoTpDefaultStMin))
        else (rx, none)
    else (rx, none)

/-- `isotp_on_can_message`, for a flow control frame. -/
def onFlowControlFrame (message : Bytes) (len : ℕ) : IsoTpSender :=
  if tx.sendStatus ≠ .inprogress then tx
  else if isotpReceiveFlowControlFrame len ≠ .ok then tx
  else
    let tx := { tx with sendTimerBs := env.isotpUserGetMs 0 + isoTpDefaultResponseTimeout }
    let fs := pciLow (message.getD 0 0)
    if fs = pciFlowStatusOverflow then
      { tx with sendProtocolResult := .bufferOvflw, sendStatus := .error }
    else if fs = pciFlowStatusWait then
      let tx := { tx with sendWtfCount := tx.sendWtfCount + 1 }
      if tx.sendWtfCount > isoTpMaxWftNumber then
        { tx with sendProtocolResult := .wftOvrn, sendStatus := .error }
      else tx
    else if fs = pciFlowStatusContinue then
      { tx with
        sendBsRemain := if message.getD 1 0 = 0 then isotpInvalidBs
          else (message.getD 1 0).toUInt16
        sendStMin := isotpStMinToMs (message.getD 2 0)
        sendWtfCount := 0 }
    else tx

/-- `isotp_receive`: the bytes that are copied to `payload`, if there is a message. -/
def isotpReceive (payloadSize : UInt16) : Option Bytes × IsoTpReceiver :=
  if rx.receiveStatus ≠ .full then (none, rx)
  else
    let copylen := if rx.receiveSize > payloadSize then payloadSize else rx.receiveSize
    (some (cells rx.receiveBuffer 0 copylen.toNat), { rx with receiveStatus := .idle })

/-- The condition of `isotp_poll` for sending a consecutive frame. -/
def IsoTpSender.maySend : Bool :=
  (tx.sendBsRemain = isotpInvalidBs || tx.sendBsRemain > 0) &&
    (tx.sendStMin = 0 ||
      (tx.sendStMin ≠ 0 && isoTpTimeAfter (env.isotpUserGetMs 0) tx.sendTimerSt))

/-- The part of `isotp_poll` that goes on with a message. -/
def pollContinue : IsoTpSender × Option CanFrame :=
  if tx.maySend env then
    let (frame, tx) := isotpSendConsecutiveFrame env tx
    if env.isotpUserSendCan = .ok then
      let tx := { tx with
        sendBsRemain := if tx.sendBsRemain ≠ isotpInvalidBs then tx.sendBsRemain - 1
          else tx.sendBsRemain
        sendTimerBs := env.isotpUserGetMs 1 + isoTpDefaultResponseTimeout
        sendTimerSt := env.isotpUserGetMs 2 + tx.sendStMin.toUInt32 }
      (if tx.sendOffset ≥ tx.sendSize then { tx with sendStatus := .idle } else tx, some frame)
    else ({ tx with sendStatus := .error }, some frame)
  else (tx, none)

/-- The test of `isotp_poll` for a timeout of the sender. -/
def pollTimeoutBs : IsoTpSender :=
  if isoTpTimeAfter (env.isotpUserGetMs 3) tx.sendTimerBs then
    { tx with sendProtocolResult := .timeoutBs, sendStatus := .error }
  else tx

/-- `isotp_poll`, for the sender. -/
def pollSender : IsoTpSender × Option CanFrame :=
  if tx.sendStatus = .inprogress then
    let (tx, frame) := pollContinue env tx
    (pollTimeoutBs env tx, frame)
  else (tx, none)

/-- `isotp_poll`, for the receiver. -/
def pollReceiver : IsoTpReceiver :=
  if rx.receiveStatus = .inprogress then
    if isoTpTimeAfter (env.isotpUserGetMs 4) rx.receiveTimerCr then
      { rx with receiveProtocolResult := .timeoutCr, receiveStatus := .idle }
    else rx
  else rx

variable (link : IsoTpLink)

/-- `isotp_on_can_message`. -/
def isotpOnCanMessage (data : Bytes) : IsoTpLink × Option CanFrame :=
  let len := data.length
  if len < 2 ∨ len > 8 then (link, none)
  else
    let message := padded data
    let type := pciType (message.getD 0 0)
    let id := link.tx.sendArbitrationId
    if type = isotpPciTypeSingle then
      ({ link with rx := onSingleFrame link.rx message len }, none)
    else if type = isotpPciTypeFirstFrame then
      let (rx, frame) := onFirstFrame env link.rx id message len
      ({ link with rx }, frame)
    else if type = tsotpPciTypeConsecutiveFrame then
      let (rx, frame) := onConsecutiveFrame env link.rx id message len
      ({ link with rx }, frame)
    else if type = isotpPciTypeFlowControlFrame then
      ({ link with tx := onFlowControlFrame env link.tx message len }, none)
    else (link, none)

/-- `isotp_poll`. -/
def isotpPoll : IsoTpLink × Option CanFrame :=
  let (tx, frame) := pollSender env link.tx
  ({ tx, rx := pollReceiver env link.rx }, frame)

/-- `isotp_init_link`. The buffers keep what was in them. -/
def isotpInitLink (sendid : UInt32) (sendbuf : ℕ → UInt8) (sendbufsize : UInt16)
    (recvbuf : ℕ → UInt8) (recvbufsize : UInt16) : IsoTpLink where
  tx :=
    { sendArbitrationId := sendid
      sendBuffer := sendbuf
      sendBufSize := sendbufsize
      sendSize := 0
      sendOffset := 0
      sendSn := 0
      sendBsRemain := 0
      sendStMin := 0
      sendWtfCount := 0
      sendTimerSt := 0
      sendTimerBs := 0
      sendProtocolResult := .ok
      sendStatus := .idle }
  rx :=
    { receiveBuffer := recvbuf
      receiveBufSize := recvbufsize
      receiveSize := 0
      receiveOffset := 0
      receiveSn := 0
      receiveBsCount := 0
      receiveTimerCr := 0
      receiveProtocolResult := .ok
      receiveStatus := .idle }

/-! ### Sequences of calls -/

/-- The calls of a link. -/
inductive IsoTpOp
  | send (payload : Bytes)
  | poll
  | onCanMessage (data : Bytes)
  | receive (payloadSize : UInt16)
  deriving DecidableEq, Repr

/-- The arguments that a caller can pass: the length of a message is a `uint16_t`. -/
def IsoTpOp.Fits : IsoTpOp → Prop
  | .send payload => payload.length < 2 ^ 16
  | _ => True

instance : DecidablePred IsoTpOp.Fits
  | .send payload => inferInstanceAs (Decidable (payload.length < 2 ^ 16))
  | .poll | .onCanMessage _ | .receive _ => inferInstanceAs (Decidable True)

/-- A call with what it returns, the bytes it copies to `payload`, and the frame that
`isotp_user_send_can` took. -/
structure IsoTpEvent where
  op : IsoTpOp
  ret : IsoTpRet
  payload : Bytes
  sent : Option CanFrame
  deriving DecidableEq, Repr

/-- `isotp_user_send_can` takes a frame if it returns `ISOTP_RET_OK`. -/
def IsoTpEnv.taken (frame : Option CanFrame) : Option CanFrame :=
  if env.isotpUserSendCan = .ok then frame else none

/-- A call. -/
def IsoTpLink.perform (op : IsoTpOp) : IsoTpEvent × IsoTpLink :=
  match op with
  | .send payload =>
    let (ret, tx, frame) := isotpSend env link.tx payload
    (⟨op, ret, [], env.taken frame⟩, { link with tx })
  | .poll =>
    let (link, frame) := isotpPoll env link
    (⟨op, .ok, [], env.taken frame⟩, link)
  | .onCanMessage data =>
    let (link, frame) := isotpOnCanMessage env link data
    (⟨op, .ok, [], env.taken frame⟩, link)
  | .receive payloadSize =>
    let (payload, rx) := isotpReceive link.rx payloadSize
    (⟨op, if payload.isSome then .ok else .noData, payload.getD [], none⟩, { link with rx })

/-- A call in some environment. -/
def LinkStep (link : IsoTpLink) (ev : IsoTpEvent) (link' : IsoTpLink) : Prop :=
  ev.op.Fits ∧ ∃ env, link.perform env ev.op = (ev, link')

/-- The sequences of calls of a link that starts as `link₀`. -/
abbrev LinkRun (link₀ : IsoTpLink) : List IsoTpEvent → IsoTpLink → Prop := Run (· = link₀) LinkStep

variable {link} {link' : IsoTpLink} {ev : IsoTpEvent}

theorem perform_op (link : IsoTpLink) (op : IsoTpOp) : (link.perform env op).1.op = op := by
  cases op <;> rfl

theorem linkStep_perform (link : IsoTpLink) {op : IsoTpOp} (hfits : op.Fits) :
    LinkStep link (link.perform env op).1 (link.perform env op).2 := by
  refine ⟨?_, env, ?_⟩
  · rwa [perform_op]
  · rw [perform_op]

/-- The call that an input prescribes. -/
def IsoTpLink.next (link : IsoTpLink) (input : IsoTpEnv × IsoTpOp) :
    Option (IsoTpEvent × IsoTpLink) :=
  if input.2.Fits then some (link.perform input.1 input.2) else none

/-- A schedule gives a sequence of calls. -/
theorem linkRun_of_follow {link₀ : IsoTpLink} {inputs : List (IsoTpEnv × IsoTpOp)}
    {tr : List IsoTpEvent} (h : follow IsoTpLink.next link₀ inputs = some (tr, link)) :
    LinkRun link₀ tr link := by
  have hnext (link : IsoTpLink) (input : IsoTpEnv × IsoTpOp) (ev : IsoTpEvent) (link' : IsoTpLink)
      (hinput : link.next input = some (ev, link')) : LinkStep link ev link' := by
    unfold IsoTpLink.next at hinput
    split_ifs at hinput with hfits
    obtain ⟨rfl, rfl⟩ := Prod.mk.inj (Option.some.inj hinput).symm
    exact linkStep_perform input.1 link hfits
  simpa using (Run.start rfl : LinkRun link₀ [] link₀).append (follow_path _ hnext h)

/-- What a call does. -/
theorem LinkStep.cases (h : LinkStep link ev link') : ∃ env : IsoTpEnv,
    (∃ payload, payload.length < 2 ^ 16 ∧
      ev = ⟨.send payload, (isotpSend env link.tx payload).1, [],
        env.taken (isotpSend env link.tx payload).2.2⟩ ∧
      link' = { link with tx := (isotpSend env link.tx payload).2.1 }) ∨
    (ev = ⟨.poll, .ok, [], env.taken (pollSender env link.tx).2⟩ ∧
      link' = ⟨(pollSender env link.tx).1, pollReceiver env link.rx⟩) ∨
    (∃ data, ev = ⟨.onCanMessage data, .ok, [], env.taken (isotpOnCanMessage env link data).2⟩ ∧
      link' = (isotpOnCanMessage env link data).1) ∨
    ∃ payloadSize, ev = ⟨.receive payloadSize,
        if (isotpReceive link.rx payloadSize).1.isSome then .ok else .noData,
        (isotpReceive link.rx payloadSize).1.getD [], none⟩ ∧
      link' = { link with rx := (isotpReceive link.rx payloadSize).2 } := by
  obtain ⟨hfits, env, heq⟩ := h
  have hev := (congrArg Prod.fst heq).symm
  have hlink := (congrArg Prod.snd heq).symm
  obtain ⟨op, ret, payload', sent⟩ := ev
  refine ⟨env, ?_⟩
  rcases op with payload | _ | data | payloadSize
  · exact .inl ⟨payload, hfits, hev, hlink⟩
  · exact .inr (.inl ⟨hev, hlink⟩)
  · exact .inr (.inr (.inl ⟨data, hev, hlink⟩))
  · exact .inr (.inr (.inr ⟨payloadSize, hev, hlink⟩))

end EcuUpgrade
