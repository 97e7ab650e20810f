import EcuUpgrade.Lib.Memory
import EcuUpgrade.Lib.Requester
import EcuUpgrade.Server.Services

/-!
# The request state machine of the UDS client

The client of `iso14229.c` fills the send buffer of its transport with a request, and a state
machine that is polled sends it, awaits the response and looks at it. The functions of the
transport are arbitrary: what their calls return is part of `ClientEnv`. As `UDSTpHandle` promises,
the receive buffer keeps what was peeked at until it is acknowledged; the send buffer belongs to
the client.

## Main definitions

* `UDSClientT`: the client.
* `UDSClientT.clientValidateResponse`, `UDSClientT.clientHandleResponse`: what is done with a
  response.
* `UDSClientT.pollLowLevel`: the state machine.
* `Encoder`, `UDSClientT.request`: the functions that make a request.
-/

namespace EcuUpgrade

open Memory

/-! ### The client -/

/-- `UDSErr_t`. -/
inductive UDSErrT
  | ok
  | udsErr
  | timeout
  | negResp
  | didMismatch
  | sidMismatch
  | subfunctionMismatch
  | tport
  | fileIo
  | respTooShort
  | bufsiz
  | invalidArg
  | busy
  deriving DecidableEq, Repr

/-- `enum UDSClientRequestState`. -/
inductive UDSClientRequestState
  | idle
  | sending
  | awaitSendComplete
  | awaitResponse
  | processResponse
  deriving DecidableEq, Repr

/-- `UDSClient_t`, without the pointers to the transport and to the callbacks. `recvBuf` and
`sendBuf` are the memory from the two buffers on. -/
structure UDSClientT where
  p2Ms : UInt16
  p2StarMs : UInt32
  p2Timer : UInt32
  recvBuf : ℕ → UInt8
  sendBuf : ℕ → UInt8
  recvBufSize : UInt16
  sendBufSize : UInt16
  recvSize : UInt16
  sendSize : UInt16
  err : UDSErrT
  state : UDSClientRequestState
  options : UInt8
  defaultOptions : UInt8
  optionsCopy : UInt8

/-- What the clock and the functions of the transport return in one call. `getSendBuf` is `none` if
there is no transport; `sendInProgress` is the flag in the result of `poll`. -/
structure ClientEnv where
  millis : ℕ
  getSendBuf : Option ℤ
  sendInProgress : Bool
  sendRet : ℤ
  peekBuf : ℕ → UInt8
  peekLen : ℤ
  peekTaType : TaType

/-- `UDSMillis`. -/
def ClientEnv.udsMillis (env : ClientEnv) : UInt32 := UInt32.ofNat env.millis

abbrev udsClientDefaultP2Ms : UInt16 := 150
abbrev udsClientDefaultP2StarMs : UInt32 := 1500

/-- `UDS_SUPPRESS_POS_RESP`. -/
abbrev udsSuppressPosResp : UInt8 := 0x1

/-- `UDS_FUNCTIONAL`. -/
abbrev udsFunctional : UInt8 := 0x2

/-- `UDS_NEG_RESP_IS_ERR`. -/
abbrev udsNegRespIsErr : UInt8 := 0x4

/-- `UDS_IGNORE_SRV_TIMINGS`. -/
abbrev udsIgnoreSrvTimings : UInt8 := 0x8

/-- Whether an option is set. -/
def hasOption (options flag : UInt8) : Bool := options &&& flag ≠ 0

/-- A request as it is sent, in the memory of the send buffer, with the options it is made with. -/
structure SentRequest where
  buf : ℕ → UInt8
  size : UInt16
  options : UInt8

/-- The bytes of a request. -/
def SentRequest.bytes (a : SentRequest) : Bytes := cells a.buf 0 a.size.toNat

/-- A response as it is received, in the memory of the receive buffer. -/
structure ReceivedResponse where
  buf : ℕ → UInt8
  size : UInt16

/-- The bytes of a response. -/
def ReceivedResponse.bytes (b : ReceivedResponse) : Bytes := cells b.buf 0 b.size.toNat

/-- What a call does: it uses the transport, or something happens to a request. -/
inductive ClientAct
  | send (a : SentRequest) (ret : ℤ)
  | ackRecv
  | event (e : Requester.Event SentRequest ReceivedResponse)

namespace UDSClientT

variable (env : ClientEnv) (c : UDSClientT)

/-- `clearRequestContext`. -/
def clearRequestContext : UDSClientT :=
  { c with recvSize := 0, sendSize := 0, state := .idle, err := .ok }

/-- `UDSClientInit`, on memory that the buffers are in. -/
def clientInit (recvBuf sendBuf : ℕ → UInt8) : UDSClientT where
  p2Ms := udsClientDefaultP2Ms
  p2StarMs := udsClientDefaultP2StarMs
  p2Timer := 0
  recvBuf := recvBuf
  sendBuf := sendBuf
  recvBufSize := 0
  sendBufSize := 0
  recvSize := 0
  sendSize := 0
  err := .ok
  state := .idle
  options := 0
  defaultOptions := 0
  optionsCopy := 0

/-- `changeState`. -/
def changeState (state : UDSClientRequestState) : UDSClientT := { c with state := state }

/-- The request in the send buffer. -/
def sent : SentRequest := ⟨c.sendBuf, c.sendSize, c.optionsCopy⟩

/-- The response in the receive buffer. -/
def received : ReceivedResponse := ⟨c.recvBuf, c.recvSize⟩

/-! ### Responses -/

/-- `_ClientValidateResponse`. `UDS_RESPONSE_SID_OF` is computed as an `int`. -/
def clientValidateResponse : UDSErrT :=
  if c.recvSize < 1 then .respTooShort
  else if c.recvBuf 0 = 0x7F then
    if c.recvSize < 2 then .respTooShort
    else if c.sendBuf 0 ≠ c.recvBuf 1 then .sidMismatch
    else if c.recvBuf 2 = 0x78 then .ok
    else if hasOption c.optionsCopy udsNegRespIsErr then .negResp
    else .ok
  else if (c.sendBuf 0).toNat + 0x40 ≠ (c.recvBuf 0).toNat then .sidMismatch
  else if c.sendBuf 0 = kSIDEcuReset then
    if c.recvSize < 2 then .respTooShort
    else if c.sendBuf 1 ≠ c.recvBuf 1 then .subfunctionMismatch
    else .ok
  else .ok

/-- The end of `_ClientHandleResponse`. -/
def finish : UDSClientT × List ClientAct :=
  (c.changeState .idle, [.ackRecv, .event (.answer c.sent c.received)])

/-- `_ClientHandleResponse`. `UDS_REQUEST_SID_OF` is computed as an `int`. -/
def clientHandleResponse : UDSClientT × List ClientAct :=
  if c.recvBuf 0 = 0x7F then
    if c.recvBuf 2 = 0x78 then
      ({ c with
          p2Timer := env.udsMillis + c.p2StarMs
          recvBuf := fun i => if i < c.recvBufSize.toNat then 0 else c.recvBuf i
          recvSize := 0
          state := .awaitResponse },
        [.ackRecv, .event (.extend c.sent c.received env.millis c.p2StarMs.toNat)])
    else c.finish
  else if ((c.recvBuf 0).toNat : ℤ) - 0x40 = kSIDDiagnosticSessionControl.toNat then
    if c.recvSize < 6 then
      ({ c with err := .respTooShort, state := .idle },
        [.ackRecv, .event (.refuse c.sent c.received)])
    else if hasOption c.optionsCopy udsIgnoreSrvTimings then c.finish
    else
      let (c', acts) := c.finish
      ({ c' with
          p2Ms := word16 (c.recvBuf 2) (c.recvBuf 3)
          p2StarMs := (word16 (c.recvBuf 4) (c.recvBuf 5)).toUInt32 * 10 }, acts)
  else c.finish

/-! ### The state machine -/

/-- The state `kRequestStateSending`. -/
def pollSending : UDSClientT × List ClientAct :=
  let acts := [ClientAct.send c.sent env.sendRet]
  if env.sendRet < 0 then ({ c with err := .tport }, acts)
  else if env.sendRet = 0 then (c, acts)
  else if (c.sendSize.toNat : ℤ) = env.sendRet then (c.changeState .awaitSendComplete, acts)
  else ({ c with err := .bufsiz }, acts)

/-- The state `kRequestStateAwaitSendComplete`. A functional request goes on below, although the
state was changed to `kRequestStateIdle`. -/
def pollAwaitSendComplete : UDSClientT × List ClientAct :=
  if env.sendInProgress then
    if hasOption c.optionsCopy udsFunctional then
      (c.changeState .idle, [.event (.drop c.sent)])
    else (c, [])
  else if hasOption c.optionsCopy udsSuppressPosResp then
    (c.changeState .idle, [.event (.drop c.sent)])
  else
    ({ c with state := .awaitResponse, p2Timer := env.udsMillis + c.p2Ms.toUInt32 },
      [.event (.await c.sent env.millis c.p2Ms.toNat)])

/-- The state `kRequestStateAwaitResponse`. -/
def pollAwaitResponse : UDSClientT × List ClientAct :=
  let c := { c with recvBuf := env.peekBuf }
  if env.peekTaType = .functional then (c, [.ackRecv])
  else if env.peekLen < 0 then
    ({ c with err := .tport, state := .idle }, [.event (.drop c.sent)])
  else if env.peekLen = 0 then
    if udsTimeAfter env.udsMillis c.p2Timer then
      ({ c with err := .timeout, state := .idle }, [.event (.expire c.sent env.millis)])
    else (c, [])
  else ({ c with recvSize := UInt16.ofNat env.peekLen.toNat, state := .processResponse }, [])

/-- The state `kRequestStateProcessResponse`. -/
def pollProcessResponse : UDSClientT × List ClientAct :=
  let err := c.clientValidateResponse
  let c := { c with err := err }
  if err = .ok then c.clientHandleResponse env
  else (c.changeState .idle, [.ackRecv, .event (.refuse c.sent c.received)])

/-- `PollLowLevel`, without the call of `poll`. -/
def pollLowLevel : UDSClientT × List ClientAct :=
  match c.state with
  | .idle => ({ c with options := c.defaultOptions }, [])
  | .sending => c.pollSending env
  | .awaitSendComplete => c.pollAwaitSendComplete env
  | .awaitResponse => c.pollAwaitResponse env
  | .processResponse => c.pollProcessResponse env

end UDSClientT

/-- A poll leaves the request in the send buffer. -/
theorem pollLowLevel_sent (env : ClientEnv) (c : UDSClientT) :
    (c.pollLowLevel env).1.sent = c.sent := by
  unfold UDSClientT.pollLowLevel UDSClientT.pollSending UDSClientT.pollAwaitSendComplete
    UDSClientT.pollAwaitResponse UDSClientT.pollProcessResponse UDSClientT.clientHandleResponse
    UDSClientT.finish UDSClientT.changeState
  dsimp only
  split
  · rfl
  all_goals split_ifs <;> rfl

/-! ### Requests -/

/-- A function that fills the send buffer. It changes nothing else of the client, also when it
returns an error. -/
structure Encoder where
  fill : UDSClientT → UDSErrT × UDSClientT
  writes (c : UDSClientT) :
    ∃ buf size, (fill c).2 = { c with sendBuf := buf, sendSize := size }

namespace UDSClientT

variable (env : ClientEnv) (c : UDSClientT)

/-- `PreRequestCheck`. -/
def preRequestCheck : UDSErrT × UDSClientT :=
  if c.state ≠ .idle then (.busy, c)
  else
    let c := c.clearRequestContext
    match env.getSendBuf with
    | none => (.tport, c)
    | some ret =>
      if ret < 0 then (.tport, c)
      else (.ok, { c with sendBufSize := UInt16.ofNat ret.toNat })

/-- `_SendRequest`, up to the poll. -/
def beginRequest : UDSClientT :=
  { c with
    optionsCopy := c.options
    sendBuf := if hasOption c.options udsSuppressPosResp
      then store c.sendBuf 1 [c.sendBuf 1 ||| 0x80] else c.sendBuf
    state := .sending }

/-- `_SendRequest`. -/
def sendRequest : UDSClientT × List ClientAct :=
  let c := c.beginRequest
  let (c', acts) := c.pollLowLevel env
  (c', .event (.accept c.sent) :: acts)

/-- A function that makes a request: `PreRequestCheck`, then the send buffer is filled, then
`_SendRequest`. -/
def request (e : Encoder) : UDSErrT × UDSClientT × List ClientAct :=
  match c.preRequestCheck env with
  | (.ok, c) =>
    match e.fill c with
    | (.ok, c) => (.ok, c.sendRequest env)
    | (err, c) => (err, c, [])
  | (err, c) => (err, c, [])

end UDSClientT

end EcuUpgrade
