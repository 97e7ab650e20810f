import EcuUpgrade.Client.Dialogue
import EcuUpgrade.Identifiers.ReadList
import EcuUpgrade.Server.Events
import EcuUpgrade.Transfer.Failures

/-!
# Requests are understood

Client and server have each their own idea of the layout of a request. The client writes the fields
in the order in which its functions name them; the server reads them at fixed places, masks the
suppress bit out of some sub-functions and takes the lengths of the data from that of the message.
A request means certain events to the client, and asks the application of the server for certain
events. Both agree, unless the suppress bit is set where the server does not expect it.

## Main definitions

* `ClientRequest`: a request as the application of the client makes it.
* `ClientRequest.encoder`, `ClientRequest.message`, `ClientRequest.meant`: the function it calls,
  the message, and the events it means.
* `ClientRequest.WellFormed`: the requests that can be understood.

## Main results

* `ClientRequest.WellFormed.writes`: the functions write the messages.
* `ClientRequest.WellFormed.asks_eq`: the server reads what is meant.
* `requests_are_understood`.
-/

namespace EcuUpgrade

open BigEndian Memory Requester ResponseCode

/-! ### Requests -/

/-- A request, by the function `UDSSend…` that makes it and its arguments. -/
inductive ClientRequest
  | ecuReset (type : UInt8)
  | diagSessCtrl (mode : UInt8)
  | commCtrl (ctrl comm : UInt8)
  | testerPresent
  | rdbi (didList : List UInt16)
  | wdbi (dataIdentifier : UInt16) (data : Payload)
  | routineCtrl (type : UInt8) (routineIdentifier : UInt16) (data : Payload)
  | requestDownload (dataFormatIdentifier addressAndLengthFormatIdentifier : UInt8)
      (memoryAddress memorySize : ℕ)
  | requestUpload (dataFormatIdentifier addressAndLengthFormatIdentifier : UInt8)
      (memoryAddress memorySize : ℕ)
  | transferData (blockSequenceCounter : UInt8) (data : Payload)
  | requestTransferExit
  | ctrlDTCSetting (dtcSettingType : UInt8) (data : Payload)
  | securityAccess (level : UInt8) (data : Payload)

namespace ClientRequest

/-- The function that makes a request. -/
def encoder (shl : ℕ → ℕ) : ClientRequest → Encoder
  | ecuReset type => udsSendECUReset type
  | diagSessCtrl mode => udsSendDiagSessCtrl mode
  | commCtrl ctrl comm => udsSendCommCtrl ctrl comm
  | testerPresent => udsSendTesterPresent
  | rdbi didList => udsSendRDBI didList
  | wdbi dataIdentifier data => udsSendWDBI dataIdentifier data
  | routineCtrl type routineIdentifier data => udsSendRoutineCtrl type routineIdentifier data
  | requestDownload format lengths address size =>
    udsSendRequestDownload shl format lengths address size
  | requestUpload format lengths address size =>
    udsSendRequestUpload shl format lengths address size
  | transferData counter data => udsSendTransferData counter data
  | requestTransferExit => udsSendRequestTransferExit
  | ctrlDTCSetting type data => udsCtrlDTCSetting type data
  | securityAccess level data => udsSendSecurityAccess level data

/-- The service that a request is made to. -/
def service : ClientRequest → UDSService
  | ecuReset _ => .ecuReset
  | diagSessCtrl _ => .diagnosticSessionControl
  | commCtrl _ _ => .communicationControl
  | testerPresent => .testerPresent
  | rdbi _ => .readDataByIdentifier
  | wdbi _ _ => .writeDataByIdentifier
  | routineCtrl _ _ _ => .routineControl
  | requestDownload _ _ _ _ => .requestDownload
  | requestUpload _ _ _ _ => .requestUpload
  | transferData _ _ => .transferData
  | requestTransferExit => .requestTransferExit
  | ctrlDTCSetting _ _ => .controlDTCSetting
  | securityAccess _ _ => .securityAccess

/-- The widths of address and size in an `addressAndLengthFormatIdentifier`. -/
def widths (lengths : UInt8) : ℕ × ℕ :=
  ((lengths &&& 0x0F).toNat, ((lengths &&& 0xF0) >>> 4).toNat)

/-- The fields behind the identifier of the service. -/
def fields : ClientRequest → Bytes
  | ecuReset type => [type]
  | diagSessCtrl mode => [mode]
  | commCtrl ctrl comm => [ctrl, comm]
  | testerPresent => [0]
  | rdbi didList => didList.flatMap didBytes
  | wdbi dataIdentifier data => didBytes dataIdentifier ++ data.1
  | routineCtrl type routineIdentifier data => [type] ++ didBytes routineIdentifier ++ data.1
  | requestDownload format lengths address size | requestUpload format lengths address size =>
    [format, lengths] ++ toBytes (widths lengths).1 address ++ toBytes (widths lengths).2 size
  | transferData counter data => [counter] ++ data.1
  | requestTransferExit => []
  | ctrlDTCSetting type data => [type] ++ data.1
  | securityAccess level data => [level] ++ data.1

/-- The message of a request, without the suppress bit. -/
def message (r : ClientRequest) : Bytes := r.service.sid :: r.fields

/-- The events that a request means, if a security level is granted. -/
def meant (granted : UInt8) : ClientRequest → List UDSServerEvent
  | ecuReset type => [.ecuReset type]
  | diagSessCtrl mode => [.diagSessCtrl mode]
  | commCtrl ctrl comm => [.commCtrl ctrl comm]
  | testerPresent => []
  | rdbi didList => didList.map .readDataByIdent
  | wdbi dataIdentifier data => [.writeDataByIdent dataIdentifier data.1]
  | routineCtrl type routineIdentifier data => [.routineCtrl type routineIdentifier data.1]
  | requestDownload format _ address size => [.requestDownload address size format]
  | requestUpload format _ address size => [.requestUpload address size format]
  | transferData _ data => [.transferData data.1]
  | requestTransferExit => [.requestTransferExit []]
  | ctrlDTCSetting _ _ => []
  | securityAccess level data =>
    if level % 2 = 0 then [.secAccessValidateKey (level - 1) data.1]
    else if level = granted then []
    else [.secAccessRequestSeed level data.1]

/-- The arguments are in the ranges that the server can read. -/
def InRange : ClientRequest → Prop
  | ecuReset type => type &&& 0x3F = type
  | diagSessCtrl mode => mode &&& 0x4F = mode
  | commCtrl ctrl _ => ctrl &&& 0x7F = ctrl
  | rdbi didList => didList.length ≤ 255
  | routineCtrl type _ _ => type &&& 0x7F = type
  | requestDownload _ lengths address size | requestUpload _ lengths address size =>
    0 < (widths lengths).1 ∧ (widths lengths).1 ≤ 8 ∧ 0 < (widths lengths).2 ∧
      (widths lengths).2 ≤ 8 ∧ address < 256 ^ (widths lengths).1 ∧
      size < 256 ^ (widths lengths).2 ∧ address < 2 ^ 32 ∧ size < 2 ^ 32
  | _ => True

/-- A request can be understood if its arguments are in range and the message is not too long, and
if the suppress bit is only set where the server masks it out. -/
structure WellFormed (options : UInt8) (r : ClientRequest) : Prop where
  inRange : r.InRange
  length_le : r.message.length ≤ 65535
  suppress : hasOption options udsSuppressPosResp = true →
    r.service.hasSubFunction = true ∧ r.service ≠ .securityAccess

variable {r : ClientRequest} {options : UInt8} {shl : ℕ → ℕ}

/-! ### Messages -/

theorem writes_of_parts {header data bytes : Bytes} {fits : UInt16 → Bool}
    (hbytes : header ++ data = bytes) (hlength : bytes.length ≤ 65535) :
    (Encoder.ofParts header fits data).Writes bytes := by
  subst hbytes
  exact writes_ofParts (by simpa using hlength)

theorem writes_udsSendRequestTransfer {sid format lengths : UInt8} {address size : ℕ}
    (haddress : address < 2 ^ 32) (hsize : size < 2 ^ 32) :
    (udsSendRequestTransfer shl sid format lengths address size).Writes (sid ::
      ([format, lengths] ++ toBytes (widths lengths).1 address ++
        toBytes (widths lengths).2 size)) := by
  unfold udsSendRequestTransfer
  dsimp only
  rw [sizeBytes_eq_toBytes haddress, sizeBytes_eq_toBytes hsize]
  have haddressWidth : (lengths &&& 0x0F).toNat < 256 := UInt8.toNat_lt _
  have hsizeWidth : ((lengths &&& 0xF0) >>> 4).toNat < 256 := UInt8.toNat_lt _
  refine writes_ofBytes ?_
  simp only [List.length_append, length_toBytes, List.length_cons, List.length_nil]
  omega

theorem writes_udsSendSecurityAccess {level : UInt8} {data : Payload}
    (h : ([kSIDSecurityAccess, level] ++ data.1).length ≤ 65535) :
    (udsSendSecurityAccess level data).Writes ([kSIDSecurityAccess, level] ++ data.1) := by
  intro c hok
  unfold udsSendSecurityAccess at hok ⊢
  dsimp only at hok ⊢
  split_ifs at hok ⊢
  exact writes_of_parts rfl h c hok

/-- **The functions write the messages.** -/
theorem WellFormed.writes (h : r.WellFormed options) : (r.encoder shl).Writes r.message := by
  have hlength := h.length_le
  have hrange := h.inRange
  cases r with
  | ecuReset type => exact writes_ofBytes hlength
  | diagSessCtrl mode => exact writes_ofBytes hlength
  | commCtrl ctrl comm => exact writes_ofBytes hlength
  | testerPresent => exact writes_ofBytes hlength
  | rdbi didList => exact writes_udsSendRDBI didList
  | wdbi dataIdentifier data =>
    unfold encoder udsSendWDBI
    exact writes_of_parts rfl hlength
  | routineCtrl type routineIdentifier data =>
    unfold encoder udsSendRoutineCtrl
    exact writes_of_parts rfl hlength
  | requestDownload format lengths address size =>
    obtain ⟨-, -, -, -, -, -, haddress, hsize⟩ := hrange
    exact writes_udsSendRequestTransfer haddress hsize
  | requestUpload format lengths address size =>
    obtain ⟨-, -, -, -, -, -, haddress, hsize⟩ := hrange
    exact writes_udsSendRequestTransfer haddress hsize
  | transferData counter data => exact writes_ofBytes hlength
  | requestTransferExit => exact writes_ofBytes hlength
  | ctrlDTCSetting type data =>
    unfold encoder udsCtrlDTCSetting
    exact writes_of_parts rfl hlength
  | securityAccess level data => exact writes_udsSendSecurityAccess hlength

/-! ### What the client sends -/

/-- A mask without the suppress bit does not see it. -/
theorem suppressing_and {b mask : UInt8} (hmask : 0x80 &&& mask = 0) :
    suppressing options b &&& mask = b &&& mask := by
  unfold suppressing
  split_ifs
  · apply UInt8.toBitVec_inj.1
    have hbits : (0x80 : UInt8).toBitVec &&& mask.toBitVec = 0 := congrArg UInt8.toBitVec hmask
    rw [UInt8.toBitVec_and, UInt8.toBitVec_or, BitVec.and_or_distrib_right, hbits,
      UInt8.toBitVec_and]
    exact BitVec.or_zero
  · rfl

variable {c : UDSClientT} {env : ClientEnv} {a : SentRequest}

theorem preRequestCheck_options (env : ClientEnv) (c : UDSClientT) :
    (c.preRequestCheck env).2.options = c.options := by
  unfold UDSClientT.preRequestCheck
  split_ifs
  · rfl
  · dsimp only
    split
    · rfl
    · split_ifs <;> rfl

/-- A poll accepts no request. -/
theorem not_accept_mem_pollLowLevel (env : ClientEnv) (c : UDSClientT) :
    .event (.accept a) ∉ (c.pollLowLevel env).2 := by
  cases pollLowLevel_outcome env c with
  | silent hsilent htimer htimings =>
    intro hmem
    cases hsilent.toEvent_eq _ hmem
  | await hstate hstate' hacts htimer htimings => simp [hacts]
  | extend hstate hstate' hjudge hacts htimer htimings => simp [hacts]
  | answer hstate hstate' hjudge hacts herr htimings => simp [hacts]
  | refuse hstate hstate' hjudge hacts herr htimings => simp [hacts]
  | expire hstate hstate' hafter hacts herr htimings => simp [hacts]
  | drop hstate hstate' hacts htimings => simp [hacts]

/-- **The request that is accepted** is the one that was written, with the suppress bit. -/
theorem bytes_of_accept {e : Encoder} {bytes : Bytes} (he : e.Writes bytes)
    (h : .event (.accept a) ∈ (c.request env e).2.2) :
    a.bytes = withSuppressBit c.options bytes := by
  unfold UDSClientT.request at h
  have hoptions := preRequestCheck_options env c
  split at h
  · next checked hchecked =>
    rw [hchecked] at hoptions
    obtain ⟨buf, size, hfill⟩ := e.writes checked
    have hwritten := he checked
    split at h
    · next filled hok =>
      rw [hok] at hfill hwritten
      have hsame : filled.options = c.options := by
        rw [show filled = _ from hfill]
        exact hoptions
      change _ ∈ ClientAct.event (.accept filled.beginRequest.sent) ::
        (filled.beginRequest.pollLowLevel env).2 at h
      rcases List.mem_cons.1 h with haccept | hpoll
      · obtain rfl : a = _ := Event.accept.inj (ClientAct.event.inj haccept)
        rw [bytes_beginRequest, hwritten rfl, hsame]
      · exact absurd hpoll (not_accept_mem_pollLowLevel _ _)
    · simp at h
  · simp at h

/-! ### What the server reads -/

variable {B : Build} {senv : Env} {s t : Sys} {q : Request}

/-- The parts of a message that was received. -/
theorem reads_of_received (header data : Bytes) (h : q.received = header ++ data) :
    q.len = header.length + data.length ∧ bytesAt q.buf 0 header.length = header ∧
      bytesAt q.buf header.length (q.len - header.length) = data := by
  have hlen : q.len = header.length + data.length := by
    have hlength := congrArg List.length h
    rwa [Request.received, length_bytesAt, List.length_append] at hlength
  rw [Request.received, hlen, bytesAt_add] at h
  obtain ⟨hheader, hdata⟩ := List.append_inj h (length_bytesAt _ _ _)
  refine ⟨hlen, hheader, ?_⟩
  rw [hlen, Nat.add_sub_cancel_left]
  simpa using hdata

theorem reads_of_suppressing {sid b : UInt8} {data : Bytes}
    (h : q.received = withSuppressBit options (sid :: b :: data)) :
    2 ≤ q.len ∧ q.buf 1 = suppressing options b ∧ bytesAt q.buf 2 (q.len - 2) = data := by
  rw [withSuppressBit_cons] at h
  obtain ⟨hlen, hheader, hdata⟩ :=
    reads_of_received [sid, suppressing options b] data h
  change [q.buf 0, q.buf 1] = [sid, suppressing options b] at hheader
  obtain ⟨-, hfield⟩ : q.buf 0 = sid ∧ q.buf 1 = suppressing options b := by simpa using hheader
  exact ⟨hlen ▸ Nat.le_add_right _ _, hfield, hdata⟩

/-- What the service finds behind the header. -/
theorem recvSlice_receive (B : Build) (senv : Env) (s : Sys) {k : ℕ} (hk : k ≤ q.len) :
    (s.receive B senv q).srv.r.recvSlice k (subSize16 (s.receive B senv q).srv.r.recvLen k) =
      bytesAt q.buf k (q.len - k) := by
  rw [receive_recvLen, subSize16_eq q hk]
  rfl

/-- Address and size, as the server reads them. -/
theorem decodeAddressAndLength_receive (B : Build) (senv : Env) (s : Sys)
    {sid format lengths : UInt8} {address size : ℕ}
    (hrange : (requestDownload format lengths address size).InRange)
    (hq : q.received = sid :: (requestDownload format lengths address size).fields) :
    decodeAddressAndLength (s.receive B senv q).srv.r 2 = .ok (address, size) ∧
      q.buf 1 = format := by
  obtain ⟨haddressPos, haddressLe, hsizePos, hsizeLe, haddress, hsize, -, -⟩ := hrange
  obtain ⟨hlen, hheader, hdata⟩ := reads_of_received [sid, format, lengths]
    (toBytes (widths lengths).1 address ++ toBytes (widths lengths).2 size) (by
      simpa [fields] using hq)
  change [q.buf 0, q.buf 1, q.buf 2] = [sid, format, lengths] at hheader
  obtain ⟨-, hformat, hlengths⟩ : q.buf 0 = sid ∧ q.buf 1 = format ∧ q.buf 2 = lengths := by
    simpa using hheader
  have hlen' : q.len = 3 + ((widths lengths).1 + (widths lengths).2) := by
    simpa using hlen
  rw [hlen', List.length_cons, List.length_cons, List.length_singleton, Nat.add_sub_cancel_left,
    bytesAt_add] at hdata
  obtain ⟨haddressBytes, hsizeBytes⟩ := List.append_inj hdata (by simp)
  refine ⟨?_, hformat⟩
  have hfieldBytes (off k : ℕ) : (List.range k).map (fun i => q.buf (off + i)) =
      bytesAt q.buf off k := by
    rw [bytesAt, List.range'_eq_map_range, List.map_map]
    rfl
  unfold decodeAddressAndLength
  rw [receive_recvLen, receive_recvBuf, hlengths]
  change (if q.len < 3 then _ else if (widths lengths).2 = 0 ∨ 8 < (widths lengths).2 then _
    else if (widths lengths).1 = 0 ∨ 8 < (widths lengths).1 then _
    else if q.len < 2 + (widths lengths).2 + (widths lengths).1 then _
    else Except.ok (orLoop (fun i => q.buf (3 + i)) (widths lengths).1,
      orLoop (fun i => q.buf (3 + (widths lengths).1 + i)) (widths lengths).2)) = _
  rw [if_neg (by omega), if_neg (by omega), if_neg (by omega), if_neg (by omega),
    orLoop_eq_ofBytes, orLoop_eq_ofBytes, hfieldBytes, hfieldBytes, haddressBytes, hsizeBytes,
    ofBytes_toBytes_of_lt haddress, ofBytes_toBytes_of_lt hsize]

/-- The identifiers, as the server reads them. -/
theorem map_range'_receive {didList : List UInt16} (did : ℕ)
    (h : bytesAt q.buf (1 + did * 2) (didList.length * 2) = didList.flatMap didBytes) :
    (List.range' did didList.length).map (fun did => UDSServerEvent.readDataByIdent
        (word16 (q.buf (1 + did * 2)) (q.buf (1 + did * 2 + 1)))) =
      didList.map .readDataByIdent := by
  induction didList generalizing did with
  | nil => rfl
  | cons dataId didList ih =>
    rw [List.length_cons, Nat.succ_mul, bytesAt_succ, bytesAt_succ, List.flatMap_cons] at h
    obtain ⟨hhigh, hlow, hrest⟩ : q.buf (1 + did * 2) = (dataId >>> 8).toUInt8 ∧
        q.buf (1 + did * 2 + 1) = dataId.toUInt8 ∧
        bytesAt q.buf (1 + did * 2 + 1 + 1) (didList.length * 2) =
          didList.flatMap didBytes := by
      simpa [didBytes] using h
    have hoffset : 1 + did * 2 + 1 + 1 = 1 + (did + 1) * 2 := by omega
    rw [hoffset] at hrest
    rw [List.length_cons, List.range'_succ, List.map_cons, List.map_cons, hhigh, hlow,
      word16_didBytes, ih (did + 1) hrest]

/-- Where the suppress bit is not masked out, it is not set. -/
theorem WellFormed.received_eq (h : r.WellFormed options)
    (hq : q.received = withSuppressBit options r.message)
    (hservice : ¬(r.service.hasSubFunction = true ∧ r.service ≠ .securityAccess)) :
    q.received = r.message := by
  rw [hq, withSuppressBit, if_neg fun hoption => hservice (h.suppress hoption)]

theorem word16_of_didBytes {dataId : UInt16} {hi lo : UInt8} (h : [hi, lo] = didBytes dataId) :
    word16 hi lo = dataId := by
  obtain ⟨rfl, rfl⟩ : hi = (dataId >>> 8).toUInt8 ∧ lo = dataId.toUInt8 := by
    simpa [didBytes] using h
  exact word16_didBytes dataId

/-- The fields of a `RoutineControl` request, as the server reads them. -/
theorem reads_routineCtrl {type : UInt8} {routineIdentifier : UInt16} {data : Payload}
    (h : (routineCtrl type routineIdentifier data).WellFormed options)
    (hq : q.received = withSuppressBit options
      (routineCtrl type routineIdentifier data).message) :
    4 ≤ q.len ∧ q.buf 1 &&& 0x7F = type ∧ word16 (q.buf 2) (q.buf 3) = routineIdentifier ∧
      bytesAt q.buf 4 (q.len - 4) = data.1 := by
  obtain ⟨hlen, hfield, hrest⟩ := reads_of_suppressing hq
  change bytesAt q.buf 2 (q.len - 2) = didBytes routineIdentifier ++ data.1 at hrest
  have hlen' : q.len - 2 = 2 + data.1.length := by
    simpa using congrArg List.length hrest
  rw [hlen', bytesAt_add] at hrest
  obtain ⟨hid, hdata⟩ := List.append_inj hrest (by simp)
  have hlen4 : q.len - 4 = data.1.length := by omega
  refine ⟨by omega, ?_, word16_of_didBytes hid, hlen4 ▸ hdata⟩
  rw [hfield, suppressing_and (by decide)]
  exact h.inRange

/-- The fields of a `SecurityAccess` request, as the server reads them. -/
theorem reads_securityAccess {level : UInt8} {data : Payload}
    (h : (securityAccess level data).WellFormed options)
    (hq : q.received = withSuppressBit options (securityAccess level data).message) :
    2 ≤ q.len ∧ q.buf 1 = level ∧ bytesAt q.buf 2 (q.len - 2) = data.1 := by
  obtain ⟨hlen, hheader, hdata⟩ := reads_of_received [kSIDSecurityAccess, level] data.1
    (h.received_eq hq (by simp [service]))
  change [q.buf 0, q.buf 1] = [kSIDSecurityAccess, level] at hheader
  exact ⟨hlen ▸ Nat.le_add_right _ _, by simpa using (List.cons.inj hheader).2, hdata⟩

/-- **The server reads what is meant.** -/
theorem WellFormed.asks_eq (h : r.WellFormed options)
    (hq : q.received = withSuppressBit options r.message) :
    (s.receive B senv q).asks r.service = r.meant s.srv.securityLevel := by
  have hrange := h.inRange
  have hplain := h.received_eq hq
  cases r with
  | ecuReset type =>
    obtain ⟨-, hfield, -⟩ := reads_of_suppressing hq
    have hmask : q.buf 1 &&& 0x3F = type := by
      rw [hfield, suppressing_and (by decide)]
      exact hrange
    exact congrArg (fun b => [UDSServerEvent.ecuReset b]) hmask
  | diagSessCtrl mode =>
    obtain ⟨-, hfield, -⟩ := reads_of_suppressing hq
    have hmask : q.buf 1 &&& 0x4F = mode := by
      rw [hfield, suppressing_and (by decide)]
      exact hrange
    exact congrArg (fun b => [UDSServerEvent.diagSessCtrl b]) hmask
  | commCtrl ctrl comm =>
    obtain ⟨hlen, hfield, hdata⟩ := reads_of_suppressing hq
    have hmask : q.buf 1 &&& 0x7F = ctrl := by
      rw [hfield, suppressing_and (by decide)]
      exact hrange
    have hlast : q.buf 2 = comm := by
      have hone : q.len - 2 = 1 := by simpa using congrArg List.length hdata
      rw [hone] at hdata
      exact (List.cons.inj hdata).1
    unfold service Sys.asks meant
    dsimp only
    rw [receive_recvBuf, hmask, hlast]
  | testerPresent => rfl
  | rdbi didList =>
    obtain ⟨hlen, -, hdata⟩ := reads_of_received [kSIDReadDataByIdentifier]
      (didList.flatMap didBytes) (hplain (by simp [service, UDSService.hasSubFunction]))
    rw [length_flatMap_didBytes, List.length_singleton] at hlen
    rw [hlen, List.length_singleton, Nat.add_sub_cancel_left] at hdata
    have hle : didList.length ≤ 255 := hrange
    have hcount : q.len / 2 % 256 = didList.length := by omega
    unfold service Sys.asks meant
    dsimp only
    rw [receive_recvLen, receive_recvBuf, hcount]
    exact map_range'_receive 0 hdata
  | wdbi dataIdentifier data =>
    obtain ⟨hlen, hheader, hdata⟩ := reads_of_received
      (kSIDWriteDataByIdentifier :: didBytes dataIdentifier) data.1
      (hplain (by simp [service, UDSService.hasSubFunction]))
    change [q.buf 0, q.buf 1, q.buf 2] = kSIDWriteDataByIdentifier :: didBytes dataIdentifier
      at hheader
    have hle : 3 ≤ q.len := hlen ▸ Nat.le_add_right _ _
    unfold service Sys.asks meant
    dsimp only
    rw [recvSlice_receive B senv s hle, receive_recvBuf,
      word16_of_didBytes (List.cons.inj hheader).2]
    exact congrArg (fun data => [UDSServerEvent.writeDataByIdent dataIdentifier data]) hdata
  | routineCtrl type routineIdentifier data =>
    obtain ⟨hlen, htype, hid, hdata⟩ := reads_routineCtrl h hq
    unfold service Sys.asks meant
    dsimp only
    rw [recvSlice_receive B senv s hlen, receive_recvBuf, htype, hid, hdata]
  | requestDownload format lengths address size =>
    obtain ⟨hdecode, hformat⟩ := decodeAddressAndLength_receive B senv s hrange
      (hplain (by simp [service, UDSService.hasSubFunction]))
    unfold service Sys.asks
    dsimp only
    rw [hdecode]
    exact congrArg (fun b => [UDSServerEvent.requestDownload address size b]) hformat
  | requestUpload format lengths address size =>
    obtain ⟨hdecode, hformat⟩ := decodeAddressAndLength_receive B senv s hrange
      (hplain (by simp [service, UDSService.hasSubFunction]))
    unfold service Sys.asks
    dsimp only
    rw [hdecode]
    exact congrArg (fun b => [UDSServerEvent.requestUpload address size b]) hformat
  | transferData counter data =>
    obtain ⟨hlen, -, hdata⟩ := reads_of_received [kSIDTransferData, counter]
      data.1 (hplain (by simp [service, UDSService.hasSubFunction]))
    have hle : 2 ≤ q.len := hlen ▸ Nat.le_add_right _ _
    have hblock := (recvSlice_receive B senv s hle).trans hdata
    exact congrArg (fun data => [UDSServerEvent.transferData data]) hblock
  | requestTransferExit =>
    obtain ⟨hlen, -, hdata⟩ := reads_of_received [kSIDRequestTransferExit]
      [] (hplain (by simp [service, UDSService.hasSubFunction]))
    have hle : 1 ≤ q.len := hlen ▸ Nat.le_add_right _ _
    have hnone := (recvSlice_receive B senv s hle).trans hdata
    exact congrArg (fun data => [UDSServerEvent.requestTransferExit data]) hnone
  | ctrlDTCSetting type data => rfl
  | securityAccess level data =>
    obtain ⟨hlen, hlevel, hdata⟩ := reads_securityAccess h hq
    unfold service Sys.asks meant
    dsimp only
    rw [receive_recvBuf, hlevel, recvSlice_receive B senv s hlen, hdata]
    rfl

/-- The service that is called is the one the request is made to. -/
theorem service_of_received (hq : q.received = withSuppressBit options r.message) :
    getServiceForSID (q.buf 0) = some r.service := by
  obtain ⟨rest, hrest⟩ : ∃ rest, withSuppressBit options r.message = r.service.sid :: rest := by
    unfold withSuppressBit message
    split_ifs
    · exact ⟨_, rfl⟩
    · exact ⟨_, rfl⟩
  rw [hrest] at hq
  obtain ⟨-, hsid, -⟩ := reads_of_received [r.service.sid] rest hq
  exact getServiceForSID_eq_some_iff.2 (List.cons.inj hsid).1

/-- The client makes a request when it accepts a message. -/
def Makes (r : ClientRequest) (a : SentRequest) : Prop :=
  ∃ shl c env, r.WellFormed c.options ∧
    .event (.accept a) ∈ (UDSClientT.request env c (r.encoder shl)).2.2

end ClientRequest

/-! ### Client and server -/

variable {B : Build} {s t : Sys} {x : Exchange} {p : Poll} {tr : List DialogueEvent} {d : Dialogue}

/-- The server has evaluated the `i`-th request while a security level was granted. -/
def EvaluatedWith (B : Build) (tr : List DialogueEvent) (i : ℕ) (granted : UInt8) : Prop :=
  ∃ pre p post d, tr = pre ++ .server p :: post ∧ DialogueRun B pre d ∧
    (served pre).length = i ∧ (DialogueEvent.server p).served ≠ [] ∧
    granted = (d.server.pollTimers B p.env).srv.securityLevel

theorem EvaluatedWith.append {i : ℕ} {granted : UInt8} (h : EvaluatedWith B tr i granted)
    (tr' : List DialogueEvent) : EvaluatedWith B (tr ++ tr') i granted := by
  obtain ⟨pre, p, post, d, rfl, h⟩ := h
  exact ⟨pre, p, post ++ tr', d, by simp, h⟩

/-- A message was answered with a response after the application was asked for some events, while a
security level was granted. They are the first of those that any request means that the message is
one of, and all of them unless the response is negative. -/
def Understood (granted : UInt8) (message : Bytes × Bytes) (asked : List UDSServerEvent) : Prop :=
  ∀ (r : ClientRequest) (options : UInt8), r.WellFormed options →
    message.1 = withSuppressBit options r.message →
      asked <+: r.meant granted ∧ (message.2.head? ≠ some 0x7F → asked = r.meant granted)

/-- **The server understands a request.** -/
theorem ServerStep.understood (hs : Settings s) (hmtu : B.udsTpMtu = 65535)
    (h : ServerStep B s x t) :
    ∃ asked, t.requested = s.requested ++ asked ∧
      Understood s.srv.securityLevel (x.req.received, x.sent) asked := by
  rcases h.cases with ⟨hnone, heq⟩ | ⟨service, -, hsome, -⟩
  · refine ⟨[], ?_, fun r options hr hmessage => ?_⟩
    · rw [List.append_nil, (Prod.mk.inj heq).2]
      exact requested_of_log rfl
    · have hservice : x.service = some r.service := r.service_of_received hmessage
      cases hservice.symm.trans hnone
  · obtain ⟨asked, hrequested, hfirst, hall⟩ := h.requested hs hsome
    refine ⟨asked, hrequested, fun r options hr hmessage => ?_⟩
    have hservice : x.service = some r.service := r.service_of_received hmessage
    obtain rfl : service = r.service := Option.some.inj (hsome.symm.trans hservice)
    rw [hr.asks_eq hmessage] at hfirst hall
    refine ⟨hfirst, fun hhead => hall ?_⟩
    by_contra hnegative
    obtain ⟨form, hform⟩ := h.hasForm hs hmtu
    cases form with
    | positive => exact hnegative hform.1
    | suppressed => exact hnegative hform.1
    | negative =>
      rw [hform.2] at hhead
      exact hhead rfl

/-- A poll of the server adds to the events what it is asked for by the request it evaluates. -/
theorem PollStep.understood (hs : Settings s) (hmtu : B.udsTpMtu = 65535)
    (h : PollStep B s p t) :
    ((DialogueEvent.server p).served = [] ∧ t.requested = s.requested) ∨
      ∃ message asked, (DialogueEvent.server p).served = [message] ∧
        t.requested = s.requested ++ asked ∧
        Understood (s.pollTimers B p.env).srv.securityLevel message asked := by
  have htimers : (s.pollTimers B p.env).requested = s.requested := pollTimers_requested B p.env s
  have hquiet (ht : t.log = (s.pollTimers B p.env).log)
      (hevents : p.events.filterMap PollEvent.exchange = []) :
      (DialogueEvent.server p).served = [] ∧ t.requested = s.requested :=
    ⟨by simp [DialogueEvent.served, Poll.exchanges, hevents],
      (requested_of_log ht).trans htimers⟩
  cases h.cases hs with
  | wait hprogress ht hevents => exact .inl (hquiet (congrArg Sys.log ht) (by rw [hevents]; rfl))
  | answer hprogress ht hevents =>
    obtain ⟨timer, ht⟩ := ht
    exact .inl (hquiet (ht ▸ rfl) (by rw [hevents]; rfl))
  | deaf hprogress hdeaf ht hevents =>
    exact .inl (hquiet (congrArg Sys.log ht) (by rw [hevents]; rfl))
  | idle hprogress hready hlen ht hevents => exact .inl (hquiet (ht ▸ rfl) (by rw [hevents]; rfl))
  | evaluate hprogress hready hlen x hreq u hstep ht hevents =>
    obtain ⟨asked, hrequested, hunderstood⟩ := hstep.understood hs.pollTimers hmtu
    refine .inr ⟨(x.req.received, x.sent), asked, ?_, ?_, hunderstood⟩
    · rw [DialogueEvent.served, Poll.exchanges, hevents]
      rfl
    · rw [ht, ← htimers]
      exact hrequested

/-- What the application of the server was asked for in a dialogue. -/
theorem DialogueRun.understood (hmtu : B.udsTpMtu = 65535) (h : DialogueRun B tr d) :
    Settings d.server ∧ ∃ asked : List (List UDSServerEvent),
      d.server.requested = asked.flatten ∧ asked.length = (served tr).length ∧
      ∀ i evs message, asked[i]? = some evs → (served tr)[i]? = some message →
        ∃ granted, EvaluatedWith B tr i granted ∧ Understood granted message evs := by
  induction h with
  | @start d h =>
    obtain ⟨-, ⟨env, fs, hserver⟩, -⟩ := h
    rw [hserver]
    exact ⟨settings_udsServerInit env fs, [], rfl, rfl, by simp⟩
  | @snoc tr d d' l hrun hstep ih =>
    obtain ⟨hs, asked, hrequested, hlength, hunderstood⟩ := ih
    have hserved : served (tr ++ [l]) = served tr ++ l.served := by simp [served]
    have hkeep (hnone : l.served = []) : asked.length = (served (tr ++ [l])).length ∧
        ∀ i evs message, asked[i]? = some evs → (served (tr ++ [l]))[i]? = some message →
          ∃ granted, EvaluatedWith B (tr ++ [l]) i granted ∧ Understood granted message evs := by
      rw [hserved, hnone, List.append_nil]
      refine ⟨hlength, fun i evs message hevs hmessage => ?_⟩
      obtain ⟨granted, hevaluated, h⟩ := hunderstood i evs message hevs hmessage
      exact ⟨granted, hevaluated.append _, h⟩
    cases hstep with
    | request env e htime hresponds => exact ⟨hs, asked, hrequested, hkeep rfl⟩
    | poll env htime hresponds => exact ⟨hs, asked, hrequested, hkeep rfl⟩
    | setOptions options defaultOptions => exact ⟨hs, asked, hrequested, hkeep rfl⟩
    | server p t hpoll hrequest =>
      refine ⟨hs.pollStep hpoll, ?_⟩
      rcases hpoll.understood hs hmtu with ⟨hnone, hsame⟩ | ⟨message, evs, hone, hmore, hnew⟩
      · exact ⟨asked, hsame.trans hrequested, hkeep hnone⟩
      · refine ⟨asked ++ [evs], ?_, ?_, fun i evs' message' hevs hmessage => ?_⟩
        · rw [List.flatten_append, List.flatten_singleton, ← hrequested]
          exact hmore
        · simp [hserved, hone, hlength]
        · rw [hserved, hone] at hmessage
          by_cases hi : i < asked.length
          · rw [List.getElem?_append_left hi] at hevs
            rw [List.getElem?_append_left (hlength ▸ hi)] at hmessage
            obtain ⟨granted, hevaluated, h⟩ := hunderstood i evs' message' hevs hmessage
            exact ⟨granted, hevaluated.append _, h⟩
          · obtain rfl : i = asked.length := by
              obtain ⟨hlt, -⟩ := List.getElem?_eq_some_iff.1 hevs
              rw [List.length_append, List.length_singleton] at hlt
              omega
            obtain rfl : evs = evs' := by simpa using hevs
            obtain rfl : message = message' := by simpa [hlength] using hmessage
            exact ⟨_, ⟨tr, p, [], d, rfl, hrun, hlength.symm, by simp [hone], rfl⟩, hnew⟩

theorem rel_of_getElem? {α β : Type*} {R : α → β → Prop} {xs : List α} {ys : List β} {i : ℕ}
    {x : α} {y : β} (h : List.Forall₂ R xs ys) (hx : xs[i]? = some x) (hy : ys[i]? = some y) :
    R x y := by
  induction h generalizing i with
  | nil => cases hx
  | cons hhead htail ih =>
    cases i with
    | zero =>
      obtain rfl := Option.some.inj hx
      obtain rfl := Option.some.inj hy
      exact hhead
    | succ i => exact ih hx hy

/-- **Requests are understood.** As long as the client gives no request up, the application of the
server is asked, in order, for what the requests mean that the application of the client has made:
for each request that was evaluated, the first of the events it means in view of the security level
that is granted then, and all of them unless it was answered negatively. -/
theorem requests_are_understood (hmtu : B.udsTpMtu = 65535) (h : DialogueRun B tr d)
    (hkept : ∀ e ∈ clientEvents tr, ¬GivesUp e) {rs : List ClientRequest}
    (hrs : List.Forall₂ ClientRequest.Makes rs (accepted (clientEvents tr))) :
    ∃ asked : List (List UDSServerEvent),
      d.server.requested = asked.flatten ∧ asked.length = (served tr).length ∧
      asked.length ≤ rs.length ∧
      ∀ (i : ℕ) (r : ClientRequest) (evs : List UDSServerEvent) (message : Bytes × Bytes),
        rs[i]? = some r → asked[i]? = some evs → (served tr)[i]? = some message →
        ∃ granted, EvaluatedWith B tr i granted ∧ evs <+: r.meant granted ∧
          (message.2.head? ≠ some 0x7F → evs = r.meant granted) := by
  obtain ⟨-, asked, hrequested, hasked, hunderstood⟩ := h.understood hmtu
  have hmade := h.served_prefix hmtu hkept
  refine ⟨asked, hrequested, hasked, ?_, fun i r evs message hr hevs hmessage => ?_⟩
  · have hlength := hmade.length_le
    rw [List.length_map, List.length_map, ← hrs.length_eq, ← hasked] at hlength
    exact hlength
  · have hsent : ((accepted (clientEvents tr)).map SentRequest.bytes)[i]? = some message.1 := by
      obtain ⟨rest, hrest⟩ := hmade
      obtain ⟨hlt, -⟩ := List.getElem?_eq_some_iff.1 hmessage
      rw [← hrest, List.getElem?_append_left (by simpa using hlt), List.getElem?_map, hmessage]
      rfl
    rw [List.getElem?_map] at hsent
    obtain ⟨a, ha, hbytes⟩ := Option.map_eq_some_iff.1 hsent
    obtain ⟨shl, c, env, hwf, haccept⟩ : r.Makes a := rel_of_getElem? hrs hr ha
    obtain ⟨granted, hevaluated, hunderstands⟩ := hunderstood i evs message hevs hmessage
    exact ⟨granted, hevaluated, hunderstands r c.options hwf
      (hbytes.symm.trans (ClientRequest.bytes_of_accept hwf.writes haccept))⟩

/-- `ECUReset` is sent and served. -/
theorem requests_are_understood_ecuReset :
    ∃ tr d, DialogueRun ⟨65535, .test⟩ tr d ∧ served tr = [([0x11, 1], [0x51, 1])] ∧
      ∃ asked : List (List UDSServerEvent),
        d.server.requested = asked.flatten ∧ asked.length = (served tr).length ∧
        asked.length ≤ [ClientRequest.ecuReset 1].length ∧
        ∀ (i : ℕ) (r : ClientRequest) (evs : List UDSServerEvent) (message : Bytes × Bytes),
          [ClientRequest.ecuReset 1][i]? = some r → asked[i]? = some evs →
          (served tr)[i]? = some message →
          ∃ granted, EvaluatedWith ⟨65535, .test⟩ tr i granted ∧ evs <+: r.meant granted ∧
            (message.2.head? ≠ some 0x7F → evs = r.meant granted) := by
  have hstart : DialogueRun ⟨65535, .test⟩ [] freshDialogue :=
    .start ⟨⟨_, _, rfl⟩, ⟨_, _, rfl⟩, rfl, rfl, rfl, rfl⟩
  have hmade := hstart.snoc (.request (freshDialogue.arriving 0 2) (udsSendECUReset 1)
    (Nat.zero_le _) (responds_arriving freshDialogue 0 2))
  generalize hd : freshDialogue.afterClient _ _ = d at hmade
  have hobserved : (d.next ⟨65535, .test⟩ (.server 2)).map
      (fun r : DialogueEvent × Dialogue => (r.1.served, r.1.acts?.isNone)) =
        some ([([0x11, 1], [0x51, 1])], true) := by
    rw [← hd]
    decide +kernel
  obtain ⟨⟨l, d'⟩, hnext, hobserved⟩ := Option.map_eq_some_iff.1 hobserved
  obtain ⟨hserved, hnone⟩ := Prod.mk.inj hobserved
  have hrun := hmade.snoc (dialogueStep_of_next hnext)
  obtain ⟨a, hevents, haccept⟩ : ∃ a, clientEvents ([] ++ [.client
      (UDSClientT.request (freshDialogue.arriving 0 2) freshDialogue.client.client
        (udsSendECUReset 1)).2.2] ++ [l]) = [.accept a, .silent] ∧
      .event (.accept a) ∈ (UDSClientT.request (freshDialogue.arriving 0 2)
        freshDialogue.client.client (udsSendECUReset 1)).2.2 := by
    refine ⟨_, ?_, List.mem_cons_self⟩
    cases l with
    | client acts => cases hnone
    | server p =>
      rw [clientEvents_server]
      rfl
  refine ⟨_, d', hrun, ?_, requests_are_understood rfl hrun ?_ ?_⟩
  · simpa [served, DialogueEvent.served] using hserved
  · rw [hevents]
    simp [GivesUp]
  · have hrange : (1 : UInt8) &&& 0x3F = 1 := by decide
    rw [hevents]
    exact .cons ⟨fun _ => 0, _, _, ⟨hrange, by decide, by decide⟩, haccept⟩ .nil

end EcuUpgrade
