import EcuUpgrade.Client.Codec
import EcuUpgrade.Lib.Blocks

/-!
# The download sequence

`UDSConfigDownload` gives the client a list of callbacks that download a file, and `UDSClientPoll`
calls the next of them whenever the client is idle: a download is requested, the file is read and
sent in numbered blocks of the length that the response allows, and the transfer is exited. None of
the callbacks looks at what the functions return that make the requests. As long as these have a
send buffer, the requests are nevertheless those that the file prescribes, whatever the transport
and the server do, until the sequence stops.

## Main definitions

* `CallbackClient`: the client with the data of the callbacks.
* `CallbackClient.udsClientPoll`: `UDSClientPoll` with these callbacks.
* `UDSClientDownloadSequenceT.script`: the requests that a file prescribes.

## Main results

* `DownloadRun.downloading`: how far the sequence has got.
* `download_follows_the_script`.
-/

namespace EcuUpgrade

open Blocks Memory Requester

/-! ### The stream -/

/-- A stream that is read. -/
structure FileStream where
  contents : Bytes
  pos : ℕ
  eof : Bool
  error : Bool

/-- The bytes that a call of `fread` with items of one byte reads. A read that fails gets some of
them at most. -/
def FileStream.readData (f : FileStream) (readFails : Option ℕ) (n : ℕ) : Bytes :=
  let data := (f.contents.drop f.pos).take n
  match readFails with
  | none => data
  | some k => data.take k

/-- The stream after this call. -/
def FileStream.afterRead (f : FileStream) (readFails : Option ℕ) (n : ℕ) : FileStream :=
  { f with
    pos := f.pos + (f.readData readFails n).length
    eof := f.eof || (readFails.isNone && (f.readData readFails n).length < n)
    error := f.error || readFails.isSome }

theorem FileStream.length_readData_le (f : FileStream) (readFails : Option ℕ) (n : ℕ) :
    (f.readData readFails n).length ≤ n := by
  unfold readData
  cases readFails with
  | none => exact List.length_take_le _ _
  | some k => exact (List.length_take_le' _ _).trans (List.length_take_le _ _)

/-! ### The callbacks -/

/-- `UDSSeqState_t`. -/
inductive UDSSeqStateT
  | done
  | running
  | gotoNext
  deriving DecidableEq, Repr

/-- The callbacks of a download. -/
inductive DownloadCallback
  | requestDownload
  | udsClientAwaitIdle
  | checkRequestDownloadResponse
  | prepareToTransfer
  | transferData
  | requestTransferExit

/-- The list `callbacks` of `UDSConfigDownload`, without the null pointer at its end. -/
def downloadCallbacks : List DownloadCallback :=
  [.requestDownload, .udsClientAwaitIdle, .checkRequestDownloadResponse, .prepareToTransfer,
    .transferData, .requestTransferExit, .udsClientAwaitIdle]

/-- `UDSClientDownloadSequence_t`. -/
structure UDSClientDownloadSequenceT where
  dataFormatIdentifier : UInt8
  addressAndLengthFormatIdentifier : UInt8
  memoryAddress : ℕ
  memorySize : ℕ
  fd : FileStream
  blockSequenceCounter : UInt8
  blockLength : UInt16

/-- The client with the members that the callbacks need. -/
structure CallbackClient where
  client : UDSClientT
  cbIdx : ℕ
  cbData : UDSClientDownloadSequenceT

/-- `UDSConfigDownload`. -/
def udsConfigDownload (client : UDSClientT)
    (dataFormatIdentifier addressAndLengthFormatIdentifier : UInt8)
    (memoryAddress memorySize : ℕ) (fd : FileStream) : CallbackClient where
  client := client
  cbIdx := 0
  cbData :=
    { dataFormatIdentifier := dataFormatIdentifier
      addressAndLengthFormatIdentifier := addressAndLengthFormatIdentifier
      memoryAddress := memoryAddress
      memorySize := memorySize
      fd := fd
      blockSequenceCounter := 1
      blockLength := 0 }

/-- What comes of a shift by the width of its type or more, for the masks of the client and for the
bytes of a response. -/
structure WideShifts where
  mask : ℕ → ℕ
  byte : UInt8 → ℕ → ℕ

variable (shl : WideShifts)

/-- `byte << (8 * i)` as a `size_t`. The operand is an `int` of 32 bits. -/
def shiftedByte (byte : UInt8) (i : ℕ) : ℕ :=
  if i < 3 then byte.toNat <<< (8 * i)
  else if i = 3 then
    if byte < 0x80 then byte.toNat <<< 24 else 0xFFFFFFFF00000000 + byte.toNat <<< 24
  else shl.byte byte i

/-- `UDSUnpackRequestDownloadResponse`, on the response in the receive buffer. -/
def ReceivedResponse.unpackRequestDownload (b : ReceivedResponse) : Except UDSErrT ℕ :=
  if b.buf 0 ≠ responseSidOf kSIDRequestDownload then .error .sidMismatch
  else if b.size < 2 then .error .respTooShort
  else
    let size := ((b.buf 1 &&& 0xF0) >>> 4).toNat
    if 8 < size then .error .udsErr
    else .ok ((List.range size).foldl
      (fun acc i => acc ||| shiftedByte shl (b.buf (2 + i)) (size - 1 - i)) 0)

theorem unpackRequestDownload_error {b : ReceivedResponse} {err : UDSErrT}
    (h : b.unpackRequestDownload shl = .error err) : err ≠ .ok := by
  unfold ReceivedResponse.unpackRequestDownload at h
  dsimp only at h
  split_ifs at h <;> cases h <;> decide

theorem unpackRequestDownload_ok {b : ReceivedResponse} {length : ℕ}
    (h : b.unpackRequestDownload shl = .ok length) : 2 ≤ b.size := by
  unfold ReceivedResponse.unpackRequestDownload at h
  dsimp only at h
  split_ifs at h with hsid hsize
  all_goals exact UInt16.not_lt.1 hsize

/-- What `fread` reads for a block. -/
def UDSClientDownloadSequenceT.blockData (seq : UDSClientDownloadSequenceT)
    (readFails : Option ℕ) : Payload :=
  ⟨seq.fd.readData readFails (seq.blockLength.toNat - 2), by
    have hread := seq.fd.length_readData_le readFails (seq.blockLength.toNat - 2)
    have hlength := seq.blockLength.toNat_lt
    omega⟩

/-- The function that requests the download. -/
def UDSClientDownloadSequenceT.downloadEncoder (seq : UDSClientDownloadSequenceT) : Encoder :=
  udsSendRequestDownload shl.mask seq.dataFormatIdentifier seq.addressAndLengthFormatIdentifier
    seq.memoryAddress seq.memorySize

namespace CallbackClient

variable (env : ClientEnv) (readFails : Option ℕ) (n : CallbackClient)

/-- `requestDownload`. -/
def requestDownload : UDSSeqStateT × CallbackClient × List ClientAct :=
  let (_, client, acts) := n.client.request env (n.cbData.downloadEncoder shl)
  (.gotoNext, { n with client := client }, acts)

/-- `UDSClientAwaitIdle`. -/
def udsClientAwaitIdle : UDSSeqStateT :=
  if n.client.err ≠ .ok then .done
  else if n.client.state = .idle then .gotoNext
  else .running

/-- `checkRequestDownloadResponse`. -/
def checkRequestDownloadResponse : UDSSeqStateT × CallbackClient :=
  match n.client.received.unpackRequestDownload shl with
  | .error err => (.done, { n with client.err := err })
  | .ok maxNumberOfBlockLength =>
    let n := { n with cbData.blockLength := UInt16.ofNat maxNumberOfBlockLength }
    if maxNumberOfBlockLength = 0 then (.done, { n with client.err := .udsErr })
    else (.gotoNext, n)

/-- `prepareToTransfer`. -/
def prepareToTransfer : UDSSeqStateT × CallbackClient :=
  (.gotoNext, { n with cbData.blockSequenceCounter := 1 })

/-- `UDSSendTransferDataStream`. It is `none` if an assertion fails. -/
def udsSendTransferDataStream : Option (CallbackClient × List ClientAct) :=
  match n.client.preRequestCheck env with
  | (.ok, _) =>
    if n.cbData.blockLength ≤ 2 then none
    else
      let (_, client, acts) := n.client.request env
        (udsSendTransferData n.cbData.blockSequenceCounter (n.cbData.blockData readFails))
      some ({ n with
        client := client
        cbData.fd := n.cbData.fd.afterRead readFails (n.cbData.blockLength.toNat - 2) }, acts)
  | (_, client) => some ({ n with client := client }, [])

/-- `transferData`. The counter is increased also when no request is made. -/
def transferData : Option (UDSSeqStateT × CallbackClient × List ClientAct) :=
  if n.client.state = .idle then
    if n.cbData.fd.error then some (.done, { n with client.err := .fileIo }, [])
    else if n.cbData.fd.eof then some (.gotoNext, n, [])
    else match n.udsSendTransferDataStream env readFails with
      | none => none
      | some (n, acts) =>
        some (.running, { n with
          cbData.blockSequenceCounter := n.cbData.blockSequenceCounter + 1 }, acts)
  else some (.running, n, [])

/-- `requestTransferExit`. -/
def requestTransferExit : UDSSeqStateT × CallbackClient × List ClientAct :=
  let (_, client, acts) := n.client.request env udsSendRequestTransferExit
  (.gotoNext, { n with client := client }, acts)

/-- The call of a callback. -/
def callback : DownloadCallback → Option (UDSSeqStateT × CallbackClient × List ClientAct)
  | .requestDownload => some (n.requestDownload shl env)
  | .udsClientAwaitIdle => some (n.udsClientAwaitIdle, n, [])
  | .checkRequestDownloadResponse =>
    let (state, n) := n.checkRequestDownloadResponse shl
    some (state, n, [])
  | .prepareToTransfer =>
    let (state, n) := n.prepareToTransfer
    some (state, n, [])
  | .transferData => n.transferData env readFails
  | .requestTransferExit => some (n.requestTransferExit env)

/-- `UDSClientPoll`: whether the client is running, what it has become, and what was done. `env` is
the environment of the poll, and `callEnv` that of the callback. It is `none` if an assertion
fails. -/
def udsClientPoll (env callEnv : ClientEnv) (readFails : Option ℕ) :
    Option (Bool × CallbackClient × List ClientAct) :=
  let (client, acts) := n.client.pollLowLevel env
  let n := { n with client := client }
  if client.err ≠ .ok then some (false, n, acts)
  else if client.state ≠ .idle then some (true, n, acts)
  else match downloadCallbacks[n.cbIdx]? with
    | none => some (false, n, acts)
    | some activeCallback =>
      match n.callback shl callEnv readFails activeCallback with
      | none => none
      | some (.done, n, acts') => some (false, n, acts ++ acts')
      | some (.running, n, acts') => some (true, n, acts ++ acts')
      | some (.gotoNext, n, acts') => some (true, { n with cbIdx := n.cbIdx + 1 }, acts ++ acts')

end CallbackClient

/-! ### Runs -/

/-- The transport has a send buffer. -/
def ClientEnv.HasSendBuf (env : ClientEnv) : Prop := ∃ size, env.getSendBuf = some size ∧ 0 ≤ size

/-- A call of `UDSClientPoll`. -/
structure DownloadPoll where
  env : ClientEnv
  callEnv : ClientEnv
  readFails : Option ℕ
  running : Bool
  acts : List ClientAct

/-- A call of `UDSClientPoll` in which no assertion fails and the transport has a send buffer. -/
def DownloadStep (n : CallbackClient) (p : DownloadPoll) (n' : CallbackClient) : Prop :=
  n.udsClientPoll shl p.env p.callEnv p.readFails = some (p.running, n', p.acts) ∧
    p.callEnv.HasSendBuf

/-- Neither the options of a client nor the default ones contain `UDS_SUPPRESS_POS_RESP`. -/
def UDSClientT.Unsuppressed (c : UDSClientT) : Prop :=
  hasOption c.options udsSuppressPosResp = false ∧
    hasOption c.defaultOptions udsSuppressPosResp = false

/-- Nothing was read of a stream yet. -/
def FileStream.Fresh (f : FileStream) : Prop := f.pos = 0 ∧ f.eof = false ∧ f.error = false

/-- A client with a new download. -/
def DownloadStart (n : CallbackClient) : Prop :=
  ∃ client format lengths address size fd, client.Unsuppressed ∧ fd.Fresh ∧
    n = udsConfigDownload client format lengths address size fd

/-- A run of the client with a download. -/
abbrev DownloadRun : List DownloadPoll → CallbackClient → Prop :=
  Runs.Run DownloadStart (DownloadStep shl)

/-- What happened to the requests of a download. -/
def downloadEvents (tr : List DownloadPoll) : List (Event SentRequest ReceivedResponse) :=
  events (tr.map DownloadPoll.acts)

/-- The messages of the requests that were made. -/
def madeMessages (evs : List (Event SentRequest ReceivedResponse)) : List Bytes :=
  (accepted evs).map SentRequest.bytes

/-! ### The script -/

/-- The message of a block, which is numbered from one on. -/
def blockRequest (i : ℕ) (data : Bytes) : Bytes := [kSIDTransferData, UInt8.ofNat (i + 1)] ++ data

namespace UDSClientDownloadSequenceT

variable (seq : UDSClientDownloadSequenceT)

/-- The request of the download. -/
def downloadMessage : Bytes :=
  [kSIDRequestDownload, seq.dataFormatIdentifier, seq.addressAndLengthFormatIdentifier] ++
    sizeBytes shl.mask (ClientRequest.widths seq.addressAndLengthFormatIdentifier).1
      seq.memoryAddress ++
    sizeBytes shl.mask (ClientRequest.widths seq.addressAndLengthFormatIdentifier).2 seq.memorySize

/-- The length of the data of a full block. -/
def blockSize : ℕ := seq.blockLength.toNat - 2

/-- The number of blocks: the last one is not full, and possibly empty. -/
def blockTotal : ℕ := seq.fd.contents.length / seq.blockSize + 1

/-- The `i`-th block of the file. -/
def fileBlock (i : ℕ) : Bytes := block seq.blockSize seq.fd.contents i

/-- **The requests that a file prescribes**: the download is requested, the blocks of the file are
sent, and the transfer is exited. -/
def script : List Bytes :=
  seq.downloadMessage shl ::
    (List.range seq.blockTotal).map (fun i => blockRequest i (seq.fileBlock i)) ++
    [[kSIDRequestTransferExit]]

end UDSClientDownloadSequenceT

variable {shl} {n n' : CallbackClient} {seq : UDSClientDownloadSequenceT} {p : DownloadPoll}
  {tr : List DownloadPoll} {env : ClientEnv} {c : UDSClientT} {made : List Bytes}
  {evs : List (Event SentRequest ReceivedResponse)}

theorem take_succ_script (shl : WideShifts) {k : ℕ} (hk : k < seq.blockTotal) :
    (seq.script shl).take (k + 2) =
      (seq.script shl).take (k + 1) ++ [blockRequest k (seq.fileBlock k)] := by
  have hget : (seq.script shl)[k + 1]? = some (blockRequest k (seq.fileBlock k)) := by
    unfold UDSClientDownloadSequenceT.script
    rw [List.cons_append, List.getElem?_cons_succ, List.getElem?_append_left (by simpa using hk)]
    simp [hk]
  rw [List.take_add_one, hget]
  rfl

theorem take_script :
    (seq.script shl).take (seq.blockTotal + 1) ++ [[kSIDRequestTransferExit]] =
      seq.script shl := by
  unfold UDSClientDownloadSequenceT.script
  rw [List.take_left' (by simp)]

/-! ### What the client does -/

theorem accepted_pollLowLevel (env : ClientEnv) (c : UDSClientT) :
    accepted ((c.pollLowLevel env).2.map ClientAct.toEvent) = [] := by
  refine List.filterMap_eq_nil_iff.2 fun e he => ?_
  obtain ⟨act, hact, rfl⟩ := List.mem_map.1 he
  cases act with
  | send a ret => rfl
  | ackRecv => rfl
  | event e =>
    cases e with
    | accept a => exact absurd hact (ClientRequest.not_accept_mem_pollLowLevel env c)
    | _ => rfl

theorem preRequestCheck_of_idle (hidle : c.state = .idle) (hbuf : env.HasSendBuf) :
    ∃ size, c.preRequestCheck env = (.ok, { c.clearRequestContext with sendBufSize := size }) := by
  obtain ⟨size, hsize, hpos⟩ := hbuf
  refine ⟨UInt16.ofNat size.toNat, ?_⟩
  unfold UDSClientT.preRequestCheck
  rw [if_neg (not_not.2 hidle), hsize]
  exact if_neg (not_lt.2 hpos)

/-- **A request of an idle client** is made, if its function succeeds. -/
theorem request_of_idle {e : Encoder} {bytes : Bytes} (hidle : c.state = .idle)
    (hbuf : env.HasSendBuf) (hok : ∀ c, (e.fill c).1 = .ok) (he : e.Writes bytes) :
    ∃ d : UDSClientT, c.request env e =
        (.ok, (d.pollLowLevel env).1, .event (.accept d.sent) :: (d.pollLowLevel env).2) ∧
      d.state = .sending ∧ d.recvSize = 0 ∧ d.options = c.options ∧
      d.defaultOptions = c.defaultOptions ∧ d.sent.bytes = withSuppressBit c.options bytes := by
  obtain ⟨size, hcheck⟩ := preRequestCheck_of_idle hidle hbuf
  set checked : UDSClientT := { c.clearRequestContext with sendBufSize := size } with hchecked
  obtain ⟨buf, sendSize, hfill⟩ := e.writes checked
  have hfilled : e.fill checked =
      (.ok, { checked with sendBuf := buf, sendSize := sendSize }) := Prod.ext (hok checked) hfill
  have hwritten := he checked (hok checked)
  rw [hfilled] at hwritten
  refine ⟨UDSClientT.beginRequest { checked with sendBuf := buf, sendSize := sendSize }, ?_, rfl,
    rfl, rfl, rfl, ?_⟩
  · unfold UDSClientT.request
    rw [hcheck]
    dsimp only
    rw [hfilled]
    rfl
  · rw [bytes_beginRequest]
    exact congrArg (withSuppressBit c.options) hwritten

theorem pollLowLevel_options (env : ClientEnv) (c : UDSClientT) :
    (c.pollLowLevel env).1.defaultOptions = c.defaultOptions ∧
      ((c.pollLowLevel env).1.options = c.options ∨
        (c.pollLowLevel env).1.options = c.defaultOptions) := by
  unfold UDSClientT.pollLowLevel UDSClientT.pollSending UDSClientT.pollAwaitSendComplete
    UDSClientT.pollAwaitResponse UDSClientT.pollProcessResponse UDSClientT.clientHandleResponse
    UDSClientT.finish UDSClientT.changeState
  dsimp only
  split
  · exact ⟨rfl, .inr rfl⟩
  all_goals split_ifs <;> exact ⟨rfl, .inl rfl⟩

theorem UDSClientT.Unsuppressed.poll (h : c.Unsuppressed) (env : ClientEnv) :
    (c.pollLowLevel env).1.Unsuppressed := by
  obtain ⟨hdefault, hoptions⟩ := pollLowLevel_options env c
  refine ⟨?_, hdefault ▸ h.2⟩
  rcases hoptions with hoptions | hoptions
  · exact hoptions ▸ h.1
  · exact hoptions ▸ h.2

/-- Nothing is in the receive buffer of a client, or the answer to its last request, when it is idle
again without an error. -/
def Answered (evs : List (Event SentRequest ReceivedResponse)) (c : UDSClientT) : Prop :=
  match c.state with
  | .sending | .awaitSendComplete => c.recvSize = 0
  | .idle => c.err = .ok → c.recvSize = 0 ∨ ∃ a, .answer a c.received ∈ evs
  | _ => True

theorem Answered.idle (h : Answered evs c) (hstate : c.state = .idle) (herr : c.err = .ok) :
    c.recvSize = 0 ∨ ∃ a, .answer a c.received ∈ evs := by
  unfold Answered at h
  rw [hstate] at h
  exact h herr

/-- The response stays in the receive buffer when the request is concluded. -/
theorem received_pollProcessResponse (env : ClientEnv) (c : UDSClientT)
    (h : (c.pollProcessResponse env).1.state = .idle) :
    (c.pollProcessResponse env).1.received = c.received := by
  unfold UDSClientT.pollProcessResponse UDSClientT.clientHandleResponse UDSClientT.finish
    UDSClientT.changeState at h ⊢
  dsimp only at h ⊢
  split_ifs at h ⊢ <;> rfl

/-- **A client that becomes idle has an answer**, or nothing. -/
theorem Answered.poll (h : Answered evs c) (env : ClientEnv) :
    Answered (evs ++ (c.pollLowLevel env).2.map ClientAct.toEvent) (c.pollLowLevel env).1 := by
  have hempty (hstate : c.state = .sending ∨ c.state = .awaitSendComplete) : c.recvSize = 0 := by
    unfold Answered at h
    rcases hstate with hstate | hstate
    · rw [hstate] at h
      exact h
    · rw [hstate] at h
      exact h
  unfold UDSClientT.pollLowLevel
  split
  · next hstate =>
    rw [List.map_nil, List.append_nil]
    unfold Answered at h ⊢
    rw [hstate] at h
    dsimp only
    rw [hstate]
    exact h
  · next hstate =>
    unfold UDSClientT.pollSending
    dsimp only
    split_ifs <;> simp [Answered, UDSClientT.changeState, hstate, hempty]
  · next hstate =>
    unfold UDSClientT.pollAwaitSendComplete
    split_ifs <;> simp [Answered, UDSClientT.changeState, hstate, hempty]
  · next hstate =>
    unfold UDSClientT.pollAwaitResponse
    dsimp only
    split_ifs <;> simp [Answered, hstate]
  · next hstate =>
    have hreceived := received_pollProcessResponse env c
    have houtcome : PollOutcome env c _ _ := pollProcessResponse_outcome hstate
    cases houtcome with
    | answer hstate' hidle hjudge hacts herr htimings =>
      unfold Answered
      rw [hidle, hacts, hreceived hidle]
      exact fun _ => .inr ⟨c.sent, by simp [ClientAct.toEvent]⟩
    | refuse hstate' hidle hjudge hacts herr htimings =>
      unfold Answered
      rw [hidle]
      exact fun hok => absurd hok herr
    | extend hstate' hawaits => simp [Answered, hawaits]
    | silent hsilent => cases hsilent <;> simp_all
    | await hstate' => cases hstate.symm.trans hstate'
    | expire hstate' => cases hstate.symm.trans hstate'
    | drop hstate' => simp [hstate] at hstate'

theorem madeMessages_append (evs evs' : List (Event SentRequest ReceivedResponse)) :
    madeMessages (evs ++ evs') = madeMessages evs ++ madeMessages evs' := by
  unfold madeMessages
  rw [accepted_append, List.map_append]

theorem madeMessages_pollLowLevel (env : ClientEnv) (c : UDSClientT) :
    madeMessages ((c.pollLowLevel env).2.map ClientAct.toEvent) = [] := by
  rw [madeMessages, accepted_pollLowLevel]
  rfl

/-- **What a request of a callback does.** -/
theorem request_of_callback {e : Encoder} {bytes : Bytes} (hidle : c.state = .idle)
    (hc : c.Unsuppressed) (hbuf : env.HasSendBuf) (hok : ∀ c, (e.fill c).1 = .ok)
    (he : e.Writes bytes) (evs : List (Event SentRequest ReceivedResponse)) :
    madeMessages ((c.request env e).2.2.map ClientAct.toEvent) = [bytes] ∧
      (c.request env e).2.1.Unsuppressed ∧
      Answered (evs ++ (c.request env e).2.2.map ClientAct.toEvent) (c.request env e).2.1 := by
  obtain ⟨d, heq, hstate, hsize, hoptions, hdefault, hbytes⟩ :=
    request_of_idle hidle hbuf hok he
  have hd : d.Unsuppressed := ⟨hoptions ▸ hc.1, hdefault ▸ hc.2⟩
  have hanswered : Answered (evs ++ [.accept d.sent]) d := by
    unfold Answered
    rw [hstate]
    exact hsize
  rw [heq]
  dsimp only
  rw [List.map_cons, List.append_cons]
  refine ⟨?_, hd.poll env, hanswered.poll env⟩
  have hplain : withSuppressBit c.options bytes = bytes := by
    rw [withSuppressBit, hc.1, if_neg Bool.false_ne_true]
  have hmade : madeMessages [.accept d.sent] = [bytes] := by
    rw [← hplain, ← hbytes]
    rfl
  refine (madeMessages_append [.accept d.sent] _).trans ?_
  rw [madeMessages_pollLowLevel, hmade, List.append_nil]

/-! ### What a poll does -/

/-- The client after a callback, which has the next one called if the state says so. -/
def UDSSeqStateT.advance (state : UDSSeqStateT) (n : CallbackClient) : CallbackClient :=
  if state = .gotoNext then { n with cbIdx := n.cbIdx + 1 } else n

/-- **What `UDSClientPoll` does**: it polls the client, and then it may call a callback. -/
theorem DownloadStep.cases (h : DownloadStep shl n p n') :
    ∃ m, m = { n with client := (n.client.pollLowLevel p.env).1 } ∧
      (n' = m ∧ p.acts = (n.client.pollLowLevel p.env).2 ∨
        ∃ cb state m' acts, downloadCallbacks[n.cbIdx]? = some cb ∧ m.client.err = .ok ∧
          m.client.state = .idle ∧
          m.callback shl p.callEnv p.readFails cb = some (state, m', acts) ∧
          n' = state.advance m' ∧ p.acts = (n.client.pollLowLevel p.env).2 ++ acts) := by
  obtain ⟨hpoll, -⟩ := h
  refine ⟨_, rfl, ?_⟩
  unfold CallbackClient.udsClientPoll at hpoll
  dsimp only at hpoll
  have hresult {r r' : Bool × CallbackClient × List ClientAct} (hr : some r = some r') :
      r'.2.1 = r.2.1 ∧ r'.2.2 = r.2.2 := by
    cases hr
    exact ⟨rfl, rfl⟩
  split_ifs at hpoll with herr hstate
  · exact .inl (hresult hpoll)
  · exact .inl (hresult hpoll)
  · split at hpoll
    · exact .inl (hresult hpoll)
    · next cb hcb =>
      have herr' := not_not.1 herr
      have hstate' := not_not.1 hstate
      split at hpoll
      · cases hpoll
      · next m acts hcall =>
        obtain ⟨hn', hacts⟩ := hresult hpoll
        exact .inr ⟨cb, .done, m, acts, hcb, herr', hstate', hcall, hn', hacts⟩
      · next m acts hcall =>
        obtain ⟨hn', hacts⟩ := hresult hpoll
        exact .inr ⟨cb, .running, m, acts, hcb, herr', hstate', hcall, hn', hacts⟩
      · next m acts hcall =>
        obtain ⟨hn', hacts⟩ := hresult hpoll
        exact .inr ⟨cb, .gotoNext, m, acts, hcb, herr', hstate', hcall, hn', hacts⟩

/-! ### How far the sequence has got -/

/-- So many reads were begun, and each has become the request for a block. If none of them has
failed, the blocks are those of the file. -/
structure BlocksMade (shl : WideShifts) (seq : UDSClientDownloadSequenceT) (made : List Bytes)
    (k : ℕ) : Prop where
  le_total : k ≤ seq.blockTotal
  prefixes : List.Forall₂ (· <+: ·) made ((seq.script shl).take (k + 1))
  script_of_ok : seq.fd.error = false → made = (seq.script shl).take (k + 1)
  pos : seq.fd.error = false → seq.fd.pos = min (k * seq.blockSize) seq.fd.contents.length
  counter : seq.fd.error = false → seq.blockSequenceCounter = UInt8.ofNat (k + 1)
  eof_iff : seq.fd.error = false →
    (seq.fd.eof = true ↔ seq.fd.contents.length < k * seq.blockSize)

/-- The messages that were made before a callback is called. -/
def MadeBefore (shl : WideShifts) (seq : UDSClientDownloadSequenceT) (made : List Bytes) : ℕ → Prop
  | 0 => seq.fd.Fresh ∧ made = []
  | 1 | 2 | 3 => seq.fd.Fresh ∧ made = [seq.downloadMessage shl]
  | 4 => ∃ k, BlocksMade shl seq made k
  | 5 => 0 < seq.blockSize ∧ seq.fd.error = false ∧
      made = (seq.script shl).take (seq.blockTotal + 1)
  | _ => 0 < seq.blockSize ∧ seq.fd.error = false ∧ made = seq.script shl

/-- The length of the blocks is the one in the answer to a request. -/
def UDSClientDownloadSequenceT.Allowed (shl : WideShifts) (seq : UDSClientDownloadSequenceT)
    (evs : List (Event SentRequest ReceivedResponse)) : Prop :=
  ∃ a b m, .answer a b ∈ evs ∧ b.unpackRequestDownload shl = .ok m ∧
    seq.blockLength = UInt16.ofNat m

/-- How far the sequence has got. -/
structure Downloading (shl : WideShifts) (evs : List (Event SentRequest ReceivedResponse))
    (n : CallbackClient) : Prop where
  unsuppressed : n.client.Unsuppressed
  made : MadeBefore shl n.cbData (madeMessages evs) n.cbIdx
  answered : n.cbIdx = 1 ∨ n.cbIdx = 2 → Answered evs n.client
  allowed : 3 ≤ n.cbIdx → n.cbData.Allowed shl evs

theorem UDSClientDownloadSequenceT.Allowed.append (h : seq.Allowed shl evs)
    (evs' : List (Event SentRequest ReceivedResponse)) : seq.Allowed shl (evs ++ evs') := by
  obtain ⟨a, b, m, hanswer, hunpack, hlength⟩ := h
  exact ⟨a, b, m, List.mem_append_left _ hanswer, hunpack, hlength⟩

/-- The poll of the client. -/
theorem Downloading.pollClient (h : Downloading shl evs n) (env : ClientEnv) :
    Downloading shl (evs ++ (n.client.pollLowLevel env).2.map ClientAct.toEvent)
      { n with client := (n.client.pollLowLevel env).1 } := by
  refine ⟨h.unsuppressed.poll env, ?_, fun hidx => (h.answered hidx).poll env,
    fun hidx => (h.allowed hidx).append _⟩
  rw [madeMessages_append, madeMessages_pollLowLevel, List.append_nil]
  exact h.made

/-! ### The blocks -/

/-- No block was read yet. -/
theorem BlocksMade.zero (hfresh : seq.fd.Fresh) (hcounter : seq.blockSequenceCounter = 1) :
    BlocksMade shl seq [seq.downloadMessage shl] 0 := by
  obtain ⟨hpos, heof, herror⟩ := hfresh
  refine ⟨Nat.zero_le _, ?_, fun _ => rfl, fun _ => ?_, fun _ => hcounter, fun _ => ?_⟩
  · exact .cons (List.prefix_refl _) .nil
  · rw [hpos, Nat.zero_mul, Nat.zero_min]
  · rw [heof, Nat.zero_mul]
    exact iff_of_false Bool.false_ne_true (Nat.not_lt_zero _)

/-- At the end of the file, every block was made. -/
theorem BlocksMade.all_of_eof {k : ℕ} (h : BlocksMade shl seq made k)
    (herror : seq.fd.error = false) (heof : seq.fd.eof = true) :
    0 < seq.blockSize ∧ made = (seq.script shl).take (seq.blockTotal + 1) := by
  have hend := (h.eof_iff herror).1 heof
  have hsize : 0 < seq.blockSize := Nat.pos_of_mul_pos_left (Nat.zero_lt_of_lt hend)
  have htotal : seq.blockTotal ≤ k := (Nat.div_lt_iff_lt_mul hsize).2 hend
  refine ⟨hsize, ?_⟩
  rw [h.script_of_ok herror, le_antisymm h.le_total htotal]

/-- The sequence after the read for a block. -/
def UDSClientDownloadSequenceT.afterBlock (seq : UDSClientDownloadSequenceT)
    (readFails : Option ℕ) : UDSClientDownloadSequenceT :=
  { seq with
    fd := seq.fd.afterRead readFails seq.blockSize
    blockSequenceCounter := seq.blockSequenceCounter + 1 }

/-- **The next block is made.** If the read fails, its request has the beginning of the block at
most. -/
theorem BlocksMade.succ {k : ℕ} (h : BlocksMade shl seq made k) (hsize : 0 < seq.blockSize)
    (herror : seq.fd.error = false) (heof : seq.fd.eof = false) (readFails : Option ℕ) :
    BlocksMade shl (seq.afterBlock readFails)
      (made ++ [[kSIDTransferData, seq.blockSequenceCounter] ++ (seq.blockData readFails).1])
      (k + 1) := by
  have hle : k * seq.blockSize ≤ seq.fd.contents.length :=
    not_lt.1 fun hend => Bool.false_ne_true (heof.symm.trans ((h.eof_iff herror).2 hend))
  have hpos : seq.fd.pos = k * seq.blockSize := (h.pos herror).trans (min_eq_left hle)
  have hk : k < seq.blockTotal := Nat.lt_succ_of_le ((Nat.le_div_iff_mul_le hsize).2 hle)
  have hscript := take_succ_script shl hk
  have hcounter := h.counter herror
  have hdata : seq.fd.readData none seq.blockSize = seq.fileBlock k := by
    unfold FileStream.readData UDSClientDownloadSequenceT.fileBlock block
    rw [hpos]
  have hlength : (seq.fileBlock k).length =
      min seq.blockSize (seq.fd.contents.length - k * seq.blockSize) := by
    unfold UDSClientDownloadSequenceT.fileBlock block
    rw [List.length_take, List.length_drop]
  have hmul : (k + 1) * seq.blockSize = k * seq.blockSize + seq.blockSize := Nat.succ_mul _ _
  cases readFails with
  | none =>
    have hmessage : [kSIDTransferData, seq.blockSequenceCounter] ++ (seq.blockData none).1 =
        blockRequest k (seq.fileBlock k) := by
      rw [hcounter, ← hdata]
      rfl
    rw [hmessage]
    refine ⟨hk, ?_, fun _ => ?_, fun _ => ?_, fun _ => ?_, fun _ => ?_⟩
    · exact hscript ▸ List.rel_append h.prefixes (.cons (List.prefix_refl _) .nil)
    · exact (congrArg (· ++ _) (h.script_of_ok herror)).trans hscript.symm
    · change seq.fd.pos + (seq.fd.readData none seq.blockSize).length =
        min ((k + 1) * seq.blockSize) seq.fd.contents.length
      rw [hdata, hpos, hlength, hmul]
      omega
    · change seq.blockSequenceCounter + 1 = UInt8.ofNat (k + 1 + 1)
      rw [hcounter]
      exact (UInt8.ofNat_add (k + 1) 1).symm
    · change (seq.fd.eof || (true && decide ((seq.fd.readData none seq.blockSize).length <
        seq.blockSize))) = true ↔ seq.fd.contents.length < (k + 1) * seq.blockSize
      rw [heof, hdata, hlength, hmul]
      simp only [Bool.true_and, Bool.false_or, decide_eq_true_eq]
      omega
  | some length =>
    have hfails : (seq.afterBlock (some length)).fd.error ≠ false := by
      simp [UDSClientDownloadSequenceT.afterBlock, FileStream.afterRead]
    refine ⟨hk, ?_, fun hok => absurd hok hfails, fun hok => absurd hok hfails,
      fun hok => absurd hok hfails, fun hok => absurd hok hfails⟩
    have hprefix : [kSIDTransferData, seq.blockSequenceCounter] ++
        (seq.blockData (some length)).1 <+: blockRequest k (seq.fileBlock k) := by
      rw [hcounter, ← hdata]
      exact (List.prefix_append_right_inj _).2 (List.take_prefix _ _)
    exact hscript ▸ List.rel_append h.prefixes (.cons hprefix .nil)

/-! ### The callbacks -/

theorem UDSClientDownloadSequenceT.writes_downloadEncoder (shl : WideShifts)
    (seq : UDSClientDownloadSequenceT) :
    (seq.downloadEncoder shl).Writes (seq.downloadMessage shl) := by
  refine writes_ofBytes ?_
  have haddress : (seq.addressAndLengthFormatIdentifier &&& 0x0F).toNat < 256 := UInt8.toNat_lt _
  have hsize : ((seq.addressAndLengthFormatIdentifier &&& 0xF0) >>> 4).toNat < 256 :=
    UInt8.toNat_lt _
  simp only [List.length_append, length_sizeBytes, List.length_cons, List.length_nil]
  omega

theorem UDSClientDownloadSequenceT.writes_udsSendTransferData (seq : UDSClientDownloadSequenceT)
    (readFails : Option ℕ) :
    (udsSendTransferData seq.blockSequenceCounter (seq.blockData readFails)).Writes
      ([kSIDTransferData, seq.blockSequenceCounter] ++ (seq.blockData readFails).1) := by
  refine writes_ofBytes ?_
  have hread := seq.fd.length_readData_le readFails (seq.blockLength.toNat - 2)
  have hlength := seq.blockLength.toNat_lt
  change (seq.fd.readData readFails (seq.blockLength.toNat - 2)).length + 2 ≤ 65535
  omega

theorem Downloading.requestDownload (h : Downloading shl evs n) (hidx : n.cbIdx = 0)
    (hidle : n.client.state = .idle) (hbuf : env.HasSendBuf) :
    Downloading shl (evs ++ (n.requestDownload shl env).2.2.map ClientAct.toEvent)
      (UDSSeqStateT.advance .gotoNext (n.requestDownload shl env).2.1) := by
  have hmade := h.made
  rw [hidx] at hmade
  obtain ⟨hfresh, hmade⟩ := hmade
  obtain ⟨hnew, hunsuppressed, hanswered⟩ := request_of_callback hidle h.unsuppressed hbuf
    (fun _ => rfl) (n.cbData.writes_downloadEncoder shl) evs
  have hidx' : (UDSSeqStateT.advance .gotoNext (n.requestDownload shl env).2.1).cbIdx = 1 :=
    congrArg (· + 1) hidx
  refine ⟨hunsuppressed, ?_, fun _ => hanswered, fun hthree => ?_⟩
  · rw [hidx', madeMessages_append, hmade, List.nil_append]
    exact ⟨hfresh, hnew⟩
  · rw [hidx'] at hthree
    omega

theorem Downloading.udsClientAwaitIdle (h : Downloading shl evs n)
    (hidx : n.cbIdx = 1 ∨ n.cbIdx = 6) :
    Downloading shl evs (n.udsClientAwaitIdle.advance n) := by
  unfold UDSSeqStateT.advance
  split_ifs
  · refine ⟨h.unsuppressed, ?_, fun _ => ?_, fun hthree => h.allowed ?_⟩
    · have hmade := h.made
      rcases hidx with hidx | hidx
      · rw [hidx] at hmade
        rw [hidx]
        exact hmade
      · rw [hidx] at hmade
        rw [hidx]
        exact hmade
    · have hone : n.cbIdx = 1 := by
        dsimp only at *
        omega
      exact h.answered (.inl hone)
    · dsimp only at hthree
      omega
  · exact h

/-- A sequence that stops with an error stays where it is. -/
theorem Downloading.fail {err : UDSErrT} (h : Downloading shl evs n)
    (hidle : n.client.state = .idle) (herr : err ≠ .ok) :
    Downloading shl evs { n with client.err := err } := by
  refine ⟨h.unsuppressed, h.made, fun _ => ?_, h.allowed⟩
  unfold Answered
  dsimp only
  rw [hidle]
  exact fun hok => absurd hok herr

theorem Downloading.checkRequestDownloadResponse (h : Downloading shl evs n) (hidx : n.cbIdx = 2)
    (hidle : n.client.state = .idle) (herr : n.client.err = .ok) :
    Downloading shl evs ((n.checkRequestDownloadResponse shl).1.advance
      (n.checkRequestDownloadResponse shl).2) := by
  have hmade := h.made
  rw [hidx] at hmade
  unfold CallbackClient.checkRequestDownloadResponse
  cases hunpack : n.client.received.unpackRequestDownload shl with
  | error err => exact h.fail hidle (unpackRequestDownload_error shl hunpack)
  | ok length =>
    set m : CallbackClient := { n with cbData.blockLength := UInt16.ofNat length } with hm
    dsimp only
    split_ifs with hzero
    · have hdown : Downloading shl evs m := by
        refine ⟨h.unsuppressed, ?_, h.answered, fun hthree => ?_⟩
        · rw [hm, hidx]
          exact hmade
        · rw [hm, hidx] at hthree
          omega
      exact hdown.fail hidle (by decide)
    · have hidx' : (UDSSeqStateT.advance .gotoNext m).cbIdx = 3 := congrArg (· + 1) hidx
      refine ⟨h.unsuppressed, ?_, fun htwo => ?_, fun _ => ?_⟩
      · rw [hidx']
        exact hmade
      · rw [hidx'] at htwo
        omega
      · rcases (h.answered (.inr hidx)).idle hidle herr with hempty | ⟨a, hanswer⟩
        · have hsize := unpackRequestDownload_ok shl hunpack
          change 2 ≤ n.client.recvSize at hsize
          rw [hempty] at hsize
          exact absurd hsize (by decide)
        · exact ⟨a, _, length, hanswer, hunpack, rfl⟩

theorem Downloading.prepareToTransfer (h : Downloading shl evs n) (hidx : n.cbIdx = 3) :
    Downloading shl evs (n.prepareToTransfer.1.advance n.prepareToTransfer.2) := by
  have hmade := h.made
  rw [hidx] at hmade
  obtain ⟨hfresh, hmade⟩ := hmade
  have hidx' : (n.prepareToTransfer.1.advance n.prepareToTransfer.2).cbIdx = 4 :=
    congrArg (· + 1) hidx
  refine ⟨h.unsuppressed, ?_, fun htwo => ?_, fun _ => h.allowed hidx.ge⟩
  · rw [hidx', hmade]
    exact ⟨0, BlocksMade.zero hfresh rfl⟩
  · rw [hidx'] at htwo
    omega

theorem Downloading.requestTransferExit (h : Downloading shl evs n) (hidx : n.cbIdx = 5)
    (hidle : n.client.state = .idle) (hbuf : env.HasSendBuf) :
    Downloading shl (evs ++ (n.requestTransferExit env).2.2.map ClientAct.toEvent)
      (UDSSeqStateT.advance .gotoNext (n.requestTransferExit env).2.1) := by
  have hmade := h.made
  rw [hidx] at hmade
  obtain ⟨hsize, herror, hmade⟩ := hmade
  have hlength : [kSIDRequestTransferExit].length ≤ 65535 := by decide
  obtain ⟨hnew, hunsuppressed, -⟩ := request_of_callback hidle h.unsuppressed hbuf
    (fun _ => rfl) (writes_ofBytes hlength) evs
  have hidx' : (UDSSeqStateT.advance .gotoNext (n.requestTransferExit env).2.1).cbIdx = 6 :=
    congrArg (· + 1) hidx
  refine ⟨hunsuppressed, ?_, fun htwo => ?_, fun _ => (h.allowed ?_).append _⟩
  · rw [hidx', madeMessages_append, hmade]
    refine ⟨hsize, herror, ?_⟩
    exact (congrArg _ hnew).trans take_script
  · rw [hidx'] at htwo
    omega
  · omega

theorem Downloading.transferData {readFails : Option ℕ} {state : UDSSeqStateT}
    {acts : List ClientAct} (h : Downloading shl evs n) (hidx : n.cbIdx = 4)
    (hidle : n.client.state = .idle) (hbuf : env.HasSendBuf)
    (hcall : n.transferData env readFails = some (state, n', acts)) :
    Downloading shl (evs ++ acts.map ClientAct.toEvent) (state.advance n') := by
  have hmade := h.made
  rw [hidx] at hmade
  obtain ⟨k, hmade⟩ := hmade
  unfold CallbackClient.transferData at hcall
  rw [if_pos hidle] at hcall
  split_ifs at hcall with herror heof
  · cases hcall
    rw [List.map_nil, List.append_nil]
    exact h.fail hidle (by decide)
  · cases hcall
    have hok := Bool.not_eq_true _ ▸ herror
    obtain ⟨hsize, hall⟩ := hmade.all_of_eof hok heof
    have hidx' : (UDSSeqStateT.advance .gotoNext n).cbIdx = 5 := congrArg (· + 1) hidx
    rw [List.map_nil, List.append_nil]
    refine ⟨h.unsuppressed, ?_, fun htwo => ?_, fun _ => h.allowed (by omega)⟩
    · rw [hidx']
      exact ⟨hsize, hok, hall⟩
    · rw [hidx'] at htwo
      omega
  · obtain ⟨size, hcheck⟩ := preRequestCheck_of_idle hidle hbuf
    unfold CallbackClient.udsSendTransferDataStream at hcall
    rw [hcheck] at hcall
    dsimp only at hcall
    split_ifs at hcall with hlength
    cases hcall
    obtain ⟨hnew, hunsuppressed, -⟩ := request_of_callback hidle h.unsuppressed hbuf
      (fun _ => rfl) (n.cbData.writes_udsSendTransferData readFails) evs
    have hsize : 0 < n.cbData.blockSize := by
      have hlt : 2 < n.cbData.blockLength.toNat :=
        UInt16.lt_iff_toNat_lt.1 (UInt16.not_le.1 hlength)
      exact Nat.sub_pos_of_lt hlt
    have hnext := hmade.succ hsize (Bool.not_eq_true _ ▸ herror) (Bool.not_eq_true _ ▸ heof)
      readFails
    refine ⟨hunsuppressed, ?_, fun htwo => ?_, fun _ => (h.allowed (by omega)).append _⟩
    · rw [madeMessages_append, hnew]
      change MadeBefore shl (n.cbData.afterBlock readFails) _ n.cbIdx
      rw [hidx]
      exact ⟨k + 1, hnext⟩
    · change n.cbIdx = 1 ∨ n.cbIdx = 2 at htwo
      omega

/-- **Every callback keeps how far the sequence has got.** -/
theorem Downloading.callback {readFails : Option ℕ} {cb : DownloadCallback} {state : UDSSeqStateT}
    {acts : List ClientAct} (h : Downloading shl evs n)
    (hcb : downloadCallbacks[n.cbIdx]? = some cb) (herr : n.client.err = .ok)
    (hidle : n.client.state = .idle) (hbuf : env.HasSendBuf)
    (hcall : n.callback shl env readFails cb = some (state, n', acts)) :
    Downloading shl (evs ++ acts.map ClientAct.toEvent) (state.advance n') := by
  have hlt : n.cbIdx < 7 := (List.getElem?_eq_some_iff.1 hcb).1
  have hnothing {m : CallbackClient} (hm : Downloading shl evs m) :
      Downloading shl (evs ++ [].map ClientAct.toEvent) m := (List.append_nil evs).symm ▸ hm
  have hcases : n.cbIdx = 0 ∨ n.cbIdx = 1 ∨ n.cbIdx = 2 ∨ n.cbIdx = 3 ∨ n.cbIdx = 4 ∨
      n.cbIdx = 5 ∨ n.cbIdx = 6 := by omega
  rcases hcases with hidx | hidx | hidx | hidx | hidx | hidx | hidx <;> rw [hidx] at hcb <;>
    cases hcb
  · cases hcall
    exact h.requestDownload hidx hidle hbuf
  · cases hcall
    exact hnothing (h.udsClientAwaitIdle (.inl hidx))
  · cases hcall
    exact hnothing (h.checkRequestDownloadResponse hidx hidle herr)
  · cases hcall
    exact hnothing (h.prepareToTransfer hidx)
  · exact h.transferData hidx hidle hbuf hcall
  · cases hcall
    exact h.requestTransferExit hidx hidle hbuf
  · cases hcall
    exact hnothing (h.udsClientAwaitIdle (.inr hidx))

/-- **Every poll keeps how far the sequence has got.** -/
theorem Downloading.step (h : Downloading shl evs n) (hstep : DownloadStep shl n p n') :
    Downloading shl (evs ++ p.acts.map ClientAct.toEvent) n' := by
  obtain ⟨m, hm, hcases⟩ := hstep.cases
  have hpolled : Downloading shl
      (evs ++ (n.client.pollLowLevel p.env).2.map ClientAct.toEvent) m :=
    hm ▸ h.pollClient p.env
  have hidx : m.cbIdx = n.cbIdx := by rw [hm]
  rcases hcases with ⟨rfl, hacts⟩ | ⟨cb, state, m', acts, hcb, herr, hidle, hcall, rfl, hacts⟩
  · rw [hacts]
    exact hpolled
  · rw [hacts, List.map_append, ← List.append_assoc]
    exact hpolled.callback (hidx ▸ hcb) herr hidle hstep.2 hcall

theorem downloading_start (h : DownloadStart n) : Downloading shl [] n := by
  obtain ⟨client, format, lengths, address, size, fd, hclient, hfd, rfl⟩ := h
  refine ⟨hclient, ⟨hfd, rfl⟩, fun htwo => ?_, fun hthree => ?_⟩
  · simp [udsConfigDownload] at htwo
  · simp [udsConfigDownload] at hthree

/-- **How far the sequence has got in a run.** -/
theorem DownloadRun.downloading (h : DownloadRun shl tr n) :
    Downloading shl (downloadEvents tr) n := by
  refine Runs.Run.invariant (P := fun tr n => Downloading shl (downloadEvents tr) n)
    (fun n hn => downloading_start hn) (fun tr n p n' _ ih hstep => ?_) h
  have hevents : downloadEvents (tr ++ [p]) =
      downloadEvents tr ++ p.acts.map ClientAct.toEvent := by
    rw [downloadEvents, List.map_append]
    exact events_snoc _ _
  rw [hevents]
  exact ih.step hstep

/-! ### The requests of a run -/

/-- The blocks put together are the file. -/
theorem UDSClientDownloadSequenceT.flatten_fileBlock (seq : UDSClientDownloadSequenceT)
    (hsize : 0 < seq.blockSize) :
    ((List.range seq.blockTotal).map seq.fileBlock).flatten = seq.fd.contents := by
  have hle : seq.fd.contents.length ≤ seq.blockTotal * seq.blockSize :=
    (Nat.lt_mul_of_div_lt (Nat.lt_succ_self _) hsize).le
  exact (flatten_block _ _ _).trans (List.take_of_length_le hle)

/-- The messages are the first of the script, except that a read that fails cuts one short. -/
theorem MadeBefore.prefixes {idx : ℕ} (h : MadeBefore shl seq made idx) :
    ∃ j, List.Forall₂ (· <+: ·) made ((seq.script shl).take j) ∧
      (seq.fd.error = false → made = (seq.script shl).take j) := by
  have hwhole {j : ℕ} (hmade : made = (seq.script shl).take j) :
      List.Forall₂ (· <+: ·) made ((seq.script shl).take j) ∧
        (seq.fd.error = false → made = (seq.script shl).take j) :=
    ⟨hmade ▸ List.forall₂_same.2 fun _ _ => List.prefix_refl _, fun _ => hmade⟩
  unfold MadeBefore at h
  split at h
  · exact ⟨0, hwhole h.2⟩
  · exact ⟨1, hwhole h.2⟩
  · exact ⟨1, hwhole h.2⟩
  · exact ⟨1, hwhole h.2⟩
  · obtain ⟨k, hk⟩ := h
    exact ⟨k + 1, hk.prefixes, hk.script_of_ok⟩
  · exact ⟨_, hwhole h.2.2⟩
  · exact ⟨(seq.script shl).length, hwhole (h.2.2.trans (List.take_length).symm)⟩

/-- The requests before the transfer are one at most. -/
theorem MadeBefore.three_le {idx : ℕ} (h : MadeBefore shl seq made idx) (hmade : 1 < made.length) :
    3 ≤ idx := by
  by_contra hlt
  obtain rfl | rfl | rfl : idx = 0 ∨ idx = 1 ∨ idx = 2 := by omega
  all_goals
    obtain ⟨-, rfl⟩ := h
    simp at hmade

theorem MadeBefore.all {idx : ℕ} (h : MadeBefore shl seq made idx) (hidx : 6 ≤ idx) :
    0 < seq.blockSize ∧ made = seq.script shl := by
  obtain ⟨i, rfl⟩ := Nat.exists_eq_add_of_le' hidx
  exact ⟨h.1, h.2.2⟩

/-- **The requests of a download are those that the file prescribes**, in their order, whatever the
transport does and the server responds. If a read fails, only the data of its block are cut short.
The blocks have the length that is in the answer to a request, and when the sequence comes to its
last callback, their data are the file. -/
theorem download_follows_the_script (h : DownloadRun shl tr n) :
    let made := madeMessages (downloadEvents tr)
    List.Forall₂ (· <+: ·) made ((n.cbData.script shl).take made.length) ∧
      (n.cbData.fd.error = false → made <+: n.cbData.script shl) ∧
      (1 < made.length → n.cbData.Allowed shl (downloadEvents tr)) ∧
      (6 ≤ n.cbIdx → made = n.cbData.script shl ∧
        ((List.range n.cbData.blockTotal).map n.cbData.fileBlock).flatten =
          n.cbData.fd.contents) := by
  intro made
  have hdown := h.downloading
  obtain ⟨j, hprefixes, hscript⟩ := hdown.made.prefixes
  have htake : (n.cbData.script shl).take made.length = (n.cbData.script shl).take j := by
    rw [hprefixes.length_eq, List.length_take, ← List.take_eq_take_min]
  refine ⟨htake ▸ hprefixes, fun herror => ?_, fun hmade => ?_, fun hidx => ?_⟩
  · have hmade : made = (n.cbData.script shl).take j := hscript herror
    exact hmade.symm ▸ List.take_prefix _ _
  · exact hdown.allowed (hdown.made.three_le hmade)
  · obtain ⟨hsize, hall⟩ := hdown.made.all hidx
    exact ⟨hall, n.cbData.flatten_fileBlock hsize⟩

/-- The next poll, with what `send` returns and what was received. -/
def CallbackClient.next (shl : WideShifts) (n : CallbackClient) (input : ℤ × Bytes) :
    Option (DownloadPoll × CallbackClient) :=
  let env := .fair 0 input.1 input.2
  match n.udsClientPoll shl env env none with
  | none => none
  | some (running, n', acts) => some (⟨env, env, none, running, acts⟩, n')

theorem downloadStep_of_next {input : ℤ × Bytes} (h : n.next shl input = some (p, n')) :
    DownloadStep shl n p n' := by
  unfold CallbackClient.next at h
  dsimp only at h
  split at h
  · cases h
  · next hpoll =>
    cases h
    exact ⟨hpoll, 65535, rfl, by decide⟩

/-- A file of three bytes is downloaded in blocks of two. -/
theorem download_follows_the_script_three_bytes : ∃ tr n,
    DownloadRun ⟨fun _ => 0, fun _ _ => 0⟩ tr n ∧
      madeMessages (downloadEvents tr) =
        [[0x34, 0, 0x11, 0x10, 3], [0x36, 1, 0xAA, 0xBB], [0x36, 2, 0xCC], [0x37]] ∧
      madeMessages (downloadEvents tr) = n.cbData.script ⟨fun _ => 0, fun _ _ => 0⟩ ∧
      ((List.range n.cbData.blockTotal).map n.cbData.fileBlock).flatten =
        n.cbData.fd.contents := by
  let start := udsConfigDownload freshClient.client 0 0x11 0x10 3
    ⟨[0xAA, 0xBB, 0xCC], 0, false, false⟩
  have hrun : (Runs.follow (CallbackClient.next ⟨fun _ => 0, fun _ _ => 0⟩) start
      [(5, []), (0, []), (0, [0x74, 0x10, 4]), (0, []), (0, []), (0, []),
        (4, []), (0, []), (0, [0x76, 1]), (3, []), (0, []), (0, [0x76, 2]), (0, []),
        (1, []), (0, []), (0, [0x77]), (0, [])]).map
        (fun r => (madeMessages (downloadEvents r.1), r.2.cbIdx)) =
      some ([[0x34, 0, 0x11, 0x10, 3], [0x36, 1, 0xAA, 0xBB], [0x36, 2, 0xCC], [0x37]], 7) := by
    decide +kernel
  obtain ⟨⟨tr, n⟩, hfollow, hobserved⟩ := Option.map_eq_some_iff.1 hrun
  obtain ⟨hmade, hidx⟩ := Prod.mk.inj hobserved
  have hpath := Runs.follow_path (CallbackClient.next _) (fun _ _ _ _ => downloadStep_of_next)
    hfollow
  have hstart : DownloadStart start :=
    ⟨_, _, _, _, _, _, ⟨rfl, rfl⟩, ⟨rfl, rfl, rfl⟩, rfl⟩
  have h : DownloadRun ⟨fun _ => 0, fun _ _ => 0⟩ tr n := (Runs.Run.start hstart).append hpath
  obtain ⟨-, -, -, hall⟩ := download_follows_the_script h
  exact ⟨tr, n, h, hmade, hall (by rw [show n.cbIdx = 7 from hidx]; decide)⟩

end EcuUpgrade
