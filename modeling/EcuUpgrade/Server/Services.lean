import EcuUpgrade.Server.Handlers
import EcuUpgrade.Lib.BigEndian
import EcuUpgrade.Lib.TrackedReads

/-!
# Services of the UDS server

The services of `iso14229.c`, one definition for each `_0x.._` function, and
`evaluateServiceResponse`, which dispatches a received request to its service and decides on the
suppression of the answer. A service works on the request in `srv.r`, emits at most one event for
it (`ReadDataByIdentifier` one for each identifier) and leaves the response in the send buffer.

The calls of `UDSMillis` within one evaluation read successive entries of `env.millis`.

## Main definitions

* `fileTransferArgs`: the decoder of `RequestFileTransfer`, as a computation that reads the
  receive buffer.
* `UDSService`, `getServiceForSID`, `UDSService.call`: the services and their dispatch.
* `evaluateServiceResponse`, `processRequest`: the evaluation of a request.
* `udsServerInit`: the process after start-up.
-/

namespace EcuUpgrade

open ResponseCode BigEndian

variable (B : Build) (env : Env) (s : Sys)

/-- `EmitEvent` up to the call of the handler. -/
def Sys.emitEvent (ev : UDSServerEvent) : Sys := s.emit (.emit ev)

/-- `UDS_RESPONSE_SID_OF`. -/
abbrev responseSidOf (sid : UInt8) : UInt8 := sid + 0x40

abbrev kSIDDiagnosticSessionControl : UInt8 := 0x10
abbrev kSIDEcuReset : UInt8 := 0x11
abbrev kSIDReadDataByIdentifier : UInt8 := 0x22
abbrev kSIDReadMemoryByAddress : UInt8 := 0x23
abbrev kSIDSecurityAccess : UInt8 := 0x27
abbrev kSIDCommunicationControl : UInt8 := 0x28
abbrev kSIDWriteDataByIdentifier : UInt8 := 0x2E
abbrev kSIDRoutineControl : UInt8 := 0x31
abbrev kSIDRequestDownload : UInt8 := 0x34
abbrev kSIDRequestUpload : UInt8 := 0x35
abbrev kSIDTransferData : UInt8 := 0x36
abbrev kSIDRequestTransferExit : UInt8 := 0x37
abbrev kSIDRequestFileTransfer : UInt8 := 0x38
abbrev kSIDTesterPresent : UInt8 := 0x3E
abbrev kSIDControlDTCSetting : UInt8 := 0x85

/-! ### Sessions, reset, identifiers and memory -/

/-- `_0x10_DiagnosticSessionControl`. -/
def diagnosticSessionControl0x10 : ResponseCode × Sys :=
  if s.srv.r.recvLen < 2 then s.negativeResponse kIncorrectMessageLengthOrInvalidFormat
  else
    let sessType := s.srv.r.recvBuf 1 &&& 0x4F
    let s := s.emitEvent (.diagSessCtrl sessType)
    let (err, p2Ms, p2StarMs) := handleDiagSessCtrl s
    if err ≠ kPositiveResponse then s.negativeResponse err
    else
      let s := s.setSession sessType
      let s := if sessType = kDefaultSession then s else s.restartS3 (env.udsMillis 0)
      (kPositiveResponse, s.setSend [responseSidOf kSIDDiagnosticSessionControl, sessType,
        (p2Ms >>> 8).toUInt8, p2Ms.toUInt8, ((p2StarMs / 10) >>> 8).toUInt8,
        (p2StarMs / 10).toUInt8])

abbrev kEnableRapidPowerShutDown : UInt8 := 4

/-- `_0x11_ECUReset`. -/
def ecuReset0x11 : ResponseCode × Sys :=
  let resetType := s.srv.r.recvBuf 1 &&& 0x3F
  if s.srv.r.recvLen < 2 then s.negativeResponse kIncorrectMessageLengthOrInvalidFormat
  else
    let s := s.emitEvent (.ecuReset resetType)
    let (err, powerDownTimeMillis) := handleEcuReset
    if err ≠ kPositiveResponse then s.negativeResponse err
    else
      let s := s.scheduleReset resetType (env.udsMillis 0 + powerDownTimeMillis)
      if resetType = kEnableRapidPowerShutDown then
        let powerDownTime := min (powerDownTimeMillis / 1000) 255
        (kPositiveResponse,
          s.setSend [responseSidOf kSIDEcuReset, resetType, powerDownTime.toUInt8])
      else (kPositiveResponse, s.setSend [responseSidOf kSIDEcuReset, resetType])

/-- The loop of `_0x22_ReadDataByIdentifier` over the `n` identifiers from the `did`-th on. -/
def readDataLoop : ℕ → ℕ → Sys → ResponseCode × Sys
  | 0, _, s => (kPositiveResponse, s)
  | n + 1, did, s =>
    let idx := (1 + did * 2) % 2 ^ 16
    let dataId := word16 (s.srv.r.recvBuf idx) (s.srv.r.recvBuf (idx + 1))
    if s.srv.r.sendBufSize < s.srv.r.sendBuf.length + 3 then s.negativeResponse kResponseTooLong
    else
      let s := s.setSend (s.srv.r.sendBuf ++ [(dataId >>> 8).toUInt8, dataId.toUInt8])
      let s := s.emitEvent (.readDataByIdent dataId)
      let (ret, s) := handleReadDataByIdent B env s dataId
      if ret ≠ kPositiveResponse then s.negativeResponse ret
      else readDataLoop n (did + 1) s

/-- `_0x22_ReadDataByIdentifier`. -/
def readDataByIdentifier0x22 : ResponseCode × Sys :=
  let s := s.setSend [responseSidOf kSIDReadDataByIdentifier]
  if subSize s.srv.r.recvLen 1 % 2 ≠ 0 then
    s.negativeResponse kIncorrectMessageLengthOrInvalidFormat
  else
    let numDIDs := s.srv.r.recvLen / 2 % 256
    if numDIDs = 0 then s.negativeResponse kIncorrectMessageLengthOrInvalidFormat
    else readDataLoop B env numDIDs 0 s

/-- `decodeAddressAndLength` at the index `off` of the receive buffer: address and size, or the
code of the negative response. -/
def decodeAddressAndLength (r : UDSReq) (off : ℕ) : Except ResponseCode (ℕ × ℕ) :=
  if r.recvLen < 3 then .error kIncorrectMessageLengthOrInvalidFormat
  else
    let memorySizeLength := ((r.recvBuf off &&& 0xF0) >>> 4).toNat
    let memoryAddressLength := (r.recvBuf off &&& 0x0F).toNat
    if memorySizeLength = 0 ∨ 8 < memorySizeLength then .error kRequestOutOfRange
    else if memoryAddressLength = 0 ∨ 8 < memoryAddressLength then .error kRequestOutOfRange
    else if r.recvLen < off + memorySizeLength + memoryAddressLength then
      .error kIncorrectMessageLengthOrInvalidFormat
    else
      .ok (orLoop (fun i => r.recvBuf (off + 1 + i)) memoryAddressLength,
        orLoop (fun i => r.recvBuf (off + 1 + memoryAddressLength + i)) memorySizeLength)

/-- `_0x23_ReadMemoryByAddress`. -/
def readMemoryByAddress0x23 : ResponseCode × Sys :=
  if s.srv.r.recvLen < 4 then s.negativeResponse kIncorrectMessageLengthOrInvalidFormat
  else match decodeAddressAndLength s.srv.r 1 with
  | .error ret => s.negativeResponse ret
  | .ok (address, length) =>
    let s := s.setSend [responseSidOf kSIDReadMemoryByAddress]
    let s := s.emitEvent (.readMemByAddr address length)
    let ret := handleReadMemByAddr
    if ret ≠ kPositiveResponse then s.negativeResponse ret
    else if s.srv.r.sendBuf.length ≠ 1 + length then (kGeneralProgrammingFailure, s)
    else (kPositiveResponse, s)

/-! ### Security access -/

/-- `UDSSecurityAccessLevelIsReserved`. -/
def udsSecurityAccessLevelIsReserved (securityLevel : UInt8) : Bool :=
  let securityLevel := securityLevel &&& 0x3F
  0 = securityLevel || (0x43 ≤ securityLevel && 0x5E ≤ securityLevel) || 0x7F = securityLevel

/-- The branch of `_0x27_SecurityAccess` for an even sub-function: `sendKey`. -/
def sendKey0x27 (subFunction : UInt8) (record : Bytes) : ResponseCode × Sys :=
  let requestedLevel := subFunction - 1
  let s := s.emitEvent (.secAccessValidateKey requestedLevel record)
  let response := handleValidateKey s record
  if response ≠ kPositiveResponse then
    (s.setAuthFailTimer (env.udsMillis 2 + bruteForceMitigationAuthFailDelayMs)).negativeResponse
      response
  else
    (kPositiveResponse, (s.setSecurityLevel requestedLevel).setSend
      [responseSidOf kSIDSecurityAccess, subFunction])

/-- The branch of `_0x27_SecurityAccess` for an odd sub-function: `requestSeed`. -/
def requestSeed0x27 (subFunction : UInt8) (record : Bytes) : ResponseCode × Sys :=
  if subFunction = s.srv.securityLevel then s.safeCopy [0x00, 0x00]
  else
    let s := s.emitEvent (.secAccessRequestSeed subFunction record)
    let (response, s) := handleRequestSeed env s
    if response ≠ kPositiveResponse then s.negativeResponse response
    else if s.srv.r.sendBuf.length ≤ 2 then s.negativeResponse kGeneralProgrammingFailure
    else (kPositiveResponse, s)

/-- `_0x27_SecurityAccess`. -/
def securityAccess0x27 : ResponseCode × Sys :=
  let subFunction := s.srv.r.recvBuf 1
  if udsSecurityAccessLevelIsReserved subFunction then
    s.negativeResponse kIncorrectMessageLengthOrInvalidFormat
  else if !udsTimeAfter (env.udsMillis 0) s.srv.secAccessBootDelayTimer then
    s.negativeResponse kRequiredTimeDelayNotExpired
  else if !udsTimeAfter (env.udsMillis 1) s.srv.secAccessAuthFailTimer then
    s.negativeResponse kExceedNumberOfAttempts
  else
    let s := s.setSend [responseSidOf kSIDSecurityAccess, subFunction]
    let record := s.srv.r.recvSlice 2 (subSize16 s.srv.r.recvLen 2)
    if subFunction % 2 = 0 then sendKey0x27 env s subFunction record
    else requestSeed0x27 env s subFunction record

/-! ### Communication control, writing and routines -/

/-- `_0x28_CommunicationControl`. -/
def communicationControl0x28 : ResponseCode × Sys :=
  let controlType := s.srv.r.recvBuf 1 &&& 0x7F
  let communicationType := s.srv.r.recvBuf 2
  if s.srv.r.recvLen < 3 then s.negativeResponse kIncorrectMessageLengthOrInvalidFormat
  else
    let s := s.emitEvent (.commCtrl controlType communicationType)
    let err := handleCommCtrl
    if err ≠ kPositiveResponse then s.negativeResponse err
    else (kPositiveResponse, s.setSend [responseSidOf kSIDCommunicationControl, controlType])

/-- `_0x2E_WriteDataByIdentifier`. -/
def writeDataByIdentifier0x2E : ResponseCode × Sys :=
  if s.srv.r.recvLen < 4 then s.negativeResponse kIncorrectMessageLengthOrInvalidFormat
  else
    let dataId := word16 (s.srv.r.recvBuf 1) (s.srv.r.recvBuf 2)
    let data := s.srv.r.recvSlice 3 (subSize16 s.srv.r.recvLen 3)
    let s := s.emitEvent (.writeDataByIdent dataId data)
    let (err, s) := handleWriteDataByIdent B env s dataId data
    if err ≠ kPositiveResponse then s.negativeResponse err
    else (kPositiveResponse, s.setSend [responseSidOf kSIDWriteDataByIdentifier,
      (dataId >>> 8).toUInt8, dataId.toUInt8])

/-- `_0x31_RoutineControl`. -/
def routineControl0x31 : Except Fault (ResponseCode × Sys) :=
  if s.srv.r.recvLen < 4 then .ok (s.negativeResponse kIncorrectMessageLengthOrInvalidFormat)
  else
    let routineControlType := s.srv.r.recvBuf 1 &&& 0x7F
    let routineIdentifier := word16 (s.srv.r.recvBuf 2) (s.srv.r.recvBuf 3)
    let optionRecord := s.srv.r.recvSlice 4 (subSize16 s.srv.r.recvLen 4)
    let s := s.setSend [responseSidOf kSIDRoutineControl, routineControlType,
      (routineIdentifier >>> 8).toUInt8, routineIdentifier.toUInt8]
    if routineControlType = kStartRoutine ∨ routineControlType = kStopRoutine ∨
        routineControlType = kRequestRoutineResults then
      let s := s.emitEvent (.routineCtrl routineControlType routineIdentifier optionRecord)
      match handleRoutineCtrl B env s routineControlType routineIdentifier optionRecord with
      | .error e => .error e
      | .ok (err, s) =>
        if err ≠ kPositiveResponse then .ok (s.negativeResponse err)
        else .ok (kPositiveResponse, s)
    else .ok (s.negativeResponse kRequestOutOfRange)

/-! ### Transfers -/

/-- The common body of `_0x34_RequestDownload` and `_0x35_RequestUpload`, which differ in the
event they emit, its handler and the service identifier. -/
def requestTransfer (sid : UInt8) (event : ℕ → ℕ → UInt8 → UDSServerEvent)
    (handler : ResponseCode) : ResponseCode × Sys :=
  if s.srv.xferIsActive then s.negativeResponse kConditionsNotCorrect
  else if s.srv.r.recvLen < 3 then s.negativeResponse kIncorrectMessageLengthOrInvalidFormat
  else match decodeAddressAndLength s.srv.r 2 with
  | .error err => s.negativeResponse err
  | .ok (memoryAddress, memorySize) =>
    let maxNumberOfBlockLength := B.udsTpMtu
    let s := s.emitEvent (event memoryAddress memorySize (s.srv.r.recvBuf 1))
    if maxNumberOfBlockLength < 3 then s.negativeResponse kGeneralProgrammingFailure
    else if handler ≠ kPositiveResponse then s.negativeResponse handler
    else
      let s := s.startTransfer memorySize maxNumberOfBlockLength.toNat
      (kPositiveResponse,
        s.setSend ([responseSidOf sid, 0x20] ++ toBytes 2 maxNumberOfBlockLength.toNat))

/-- `_0x34_RequestDownload`. -/
def requestDownload0x34 : ResponseCode × Sys :=
  requestTransfer B s kSIDRequestDownload .requestDownload handleRequestDownload

/-- `_0x35_RequestUpload`. -/
def requestUpload0x35 : ResponseCode × Sys :=
  requestTransfer B s kSIDRequestUpload .requestUpload handleRequestUpload

/-- The label `fail` of `_0x36_TransferData`. -/
def transferDataFail (err : ResponseCode) : ResponseCode × Sys :=
  s.resetTransfer.negativeResponse err

/-- `_0x36_TransferData`. -/
def transferData0x36 : ResponseCode × Sys :=
  let requestDataLen := subSize16 s.srv.r.recvLen 2
  if !s.srv.xferIsActive then s.negativeResponse kUploadDownloadNotAccepted
  else if s.srv.r.recvLen < 2 then transferDataFail s kIncorrectMessageLengthOrInvalidFormat
  else
    let blockSequenceCounter := s.srv.r.recvBuf 1
    if !s.srv.rcrrp && blockSequenceCounter ≠ s.srv.xferBlockSequenceCounter then
      transferDataFail s kRequestSequenceError
    else
      let s := if s.srv.rcrrp then s else s.nextBlock
      if s.srv.xferTotalBytes < (s.srv.xferByteCounter + requestDataLen) % 2 ^ 64 then
        transferDataFail s kTransferDataSuspended
      else
        let data := s.srv.r.recvSlice 2 requestDataLen
        let s := s.setSend [responseSidOf kSIDTransferData, blockSequenceCounter]
        let s := s.emitEvent (.transferData data)
        let (err, s) := handleTransferData env s data
        match err with
        | kPositiveResponse =>
          (kPositiveResponse, s.countBytes requestDataLen)
        | kRequestCorrectlyReceivedResponsePending =>
          s.negativeResponse kRequestCorrectlyReceivedResponsePending
        | err => transferDataFail s err

/-- `_0x37_RequestTransferExit`. -/
def requestTransferExit0x37 : Except Fault (ResponseCode × Sys) :=
  if !s.srv.xferIsActive then .ok (s.negativeResponse kUploadDownloadNotAccepted)
  else
    let s := s.setSend [responseSidOf kSIDRequestTransferExit]
    let s := s.emitEvent
      (.requestTransferExit (s.srv.r.recvSlice 1 (subSize16 s.srv.r.recvLen 1)))
    match handleRequestTransferExit s with
    | .error e => .error e
    | .ok (kPositiveResponse, s) => .ok (kPositiveResponse, s.resetTransfer)
    | .ok (kRequestCorrectlyReceivedResponsePending, s) =>
      .ok (s.negativeResponse kRequestCorrectlyReceivedResponsePending)
    | .ok (err, s) => .ok (s.resetTransfer.negativeResponse err)

abbrev kAddFile : UInt8 := 1
abbrev kReplaceFile : UInt8 := 3
abbrev kReadFile : UInt8 := 4

/-- A size field of `size` bytes at `off`. -/
def readFileSize (off size : ℕ) : Reads UInt8 ℕ := do
  let bytes ← Reads.slice off size
  pure (orLoop (fun i => bytes.getD i 0) size)

/-- The decoder of `_0x38_RequestFileTransfer`. The bytes of the path are read by the handler, to
which they are passed by pointer and length. -/
def fileTransferArgs : Reads UInt8 (Except ResponseCode FileTransferArgs) := do
  let operation ← Reads.cell 1
  let pathLenHigh ← Reads.cell 2
  let pathLenLow ← Reads.cell 3
  let filePathLen := (word16 pathLenHigh pathLenLow).toNat
  if operation = kAddFile ∨ operation = kReplaceFile then
    let fileMode ← Reads.cell (4 + filePathLen)
    let size ← Reads.cell (4 + filePathLen + 1)
    if 8 < size then pure (.error kRequestOutOfRange)
    else
      let uncompressed ← readFileSize (4 + filePathLen + 2) size.toNat
      let compressed ← readFileSize (4 + filePathLen + 2 + size.toNat) size.toNat
      let path ← Reads.slice 4 filePathLen
      pure (.ok ⟨operation, path, fileMode, uncompressed, compressed⟩)
  else if operation = kReadFile then
    let fileMode ← Reads.cell (4 + filePathLen)
    let path ← Reads.slice 4 filePathLen
    pure (.ok ⟨operation, path, fileMode, 0, 0⟩)
  else
    let path ← Reads.slice 4 filePathLen
    pure (.ok ⟨operation, path, 0, 0, 0⟩)

/-- `_0x38_RequestFileTransfer`. -/
def requestFileTransfer0x38 : ResponseCode × Sys :=
  if s.srv.xferIsActive then s.negativeResponse kConditionsNotCorrect
  else if s.srv.r.recvLen < 4 then s.negativeResponse kIncorrectMessageLengthOrInvalidFormat
  else match fileTransferArgs.run s.srv.r.recvBuf with
  | .error err => s.negativeResponse err
  | .ok args =>
    let s := s.emitEvent (.requestFileTransfer args)
    let (err, s, maxNumberOfBlockLength) := handleRequestFileTransfer B env s args
    if err ≠ kPositiveResponse then s.negativeResponse err
    else
      let s := s.startTransfer args.fileSizeCompressed maxNumberOfBlockLength.toNat
      let maxNumberOfBlockLength := min maxNumberOfBlockLength B.udsTpMtu
      (kPositiveResponse,
        s.setSend ([responseSidOf kSIDRequestFileTransfer, args.modeOfOperation, 2] ++
          toBytes 2 maxNumberOfBlockLength.toNat ++ [args.dataFormatIdentifier]))

/-! ### Tester present and DTC setting -/

/-- `_0x3E_TesterPresent`. -/
def testerPresent0x3E : ResponseCode × Sys :=
  if s.srv.r.recvLen < 2 ∨ 2 < s.srv.r.recvLen then
    s.negativeResponse kIncorrectMessageLengthOrInvalidFormat
  else
    let zeroSubFunction := s.srv.r.recvBuf 1
    if zeroSubFunction = 0x00 ∨ zeroSubFunction = 0x80 then
      (kPositiveResponse,
        (s.restartS3 (env.udsMillis 0)).setSend [responseSidOf kSIDTesterPresent, 0x00])
    else s.negativeResponse kSubFunctionNotSupported

/-- `_0x85_ControlDTCSetting`. -/
def controlDTCSetting0x85 : ResponseCode × Sys :=
  if s.srv.r.recvLen < 2 then s.negativeResponse kIncorrectMessageLengthOrInvalidFormat
  else
    let dtcSettingType := s.srv.r.recvBuf 1 &&& 0x3F
    (kPositiveResponse, s.setSend [responseSidOf kSIDControlDTCSetting, dtcSettingType])

/-! ### Dispatch -/

/-- The services that have a function. -/
inductive UDSService
  | diagnosticSessionControl
  | ecuReset
  | readDataByIdentifier
  | readMemoryByAddress
  | securityAccess
  | communicationControl
  | writeDataByIdentifier
  | routineControl
  | requestDownload
  | requestUpload
  | transferData
  | requestTransferExit
  | requestFileTransfer
  | testerPresent
  | controlDTCSetting
  deriving DecidableEq, Repr

/-- `getServiceForSID`; `none` stands for the null pointer. -/
def getServiceForSID (sid : UInt8) : Option UDSService :=
  if sid = kSIDDiagnosticSessionControl then some .diagnosticSessionControl
  else if sid = kSIDEcuReset then some .ecuReset
  else if sid = kSIDReadDataByIdentifier then some .readDataByIdentifier
  else if sid = kSIDReadMemoryByAddress then some .readMemoryByAddress
  else if sid = kSIDSecurityAccess then some .securityAccess
  else if sid = kSIDCommunicationControl then some .communicationControl
  else if sid = kSIDWriteDataByIdentifier then some .writeDataByIdentifier
  else if sid = kSIDRoutineControl then some .routineControl
  else if sid = kSIDRequestDownload then some .requestDownload
  else if sid = kSIDRequestUpload then some .requestUpload
  else if sid = kSIDTransferData then some .transferData
  else if sid = kSIDRequestTransferExit then some .requestTransferExit
  else if sid = kSIDRequestFileTransfer then some .requestFileTransfer
  else if sid = kSIDTesterPresent then some .testerPresent
  else if sid = kSIDControlDTCSetting then some .controlDTCSetting
  else none

/-- The call of a service through its pointer. -/
def UDSService.call : UDSService → Except Fault (ResponseCode × Sys)
  | .diagnosticSessionControl => .ok (diagnosticSessionControl0x10 env s)
  | .ecuReset => .ok (ecuReset0x11 env s)
  | .readDataByIdentifier => .ok (readDataByIdentifier0x22 B env s)
  | .readMemoryByAddress => .ok (readMemoryByAddress0x23 s)
  | .securityAccess => .ok (securityAccess0x27 env s)
  | .communicationControl => .ok (communicationControl0x28 s)
  | .writeDataByIdentifier => .ok (writeDataByIdentifier0x2E B env s)
  | .routineControl => routineControl0x31 B env s
  | .requestDownload => .ok (requestDownload0x34 B s)
  | .requestUpload => .ok (requestUpload0x35 B s)
  | .transferData => .ok (transferData0x36 env s)
  | .requestTransferExit => requestTransferExit0x37 s
  | .requestFileTransfer => .ok (requestFileTransfer0x38 B env s)
  | .testerPresent => .ok (testerPresent0x3E env s)
  | .controlDTCSetting => .ok (controlDTCSetting0x85 s)

/-- The services with a sub-function in `evaluateServiceResponse`. -/
def UDSService.hasSubFunction : UDSService → Bool
  | .diagnosticSessionControl | .ecuReset | .securityAccess | .communicationControl
  | .routineControl | .testerPresent | .controlDTCSetting => true
  | _ => false

/-- The codes that are not sent in answer to a functionally addressed request. -/
def ResponseCode.functionallySilent (c : ResponseCode) : Bool :=
  c = kServiceNotSupported || c = kSubFunctionNotSupported ||
    c = kServiceNotSupportedInActiveSession || c = kSubFunctionNotSupportedInActiveSession ||
    c = kRequestOutOfRange

/-- `evaluateServiceResponse`, with the function pointer `fn` installed. -/
def evaluateServiceResponse : Except Fault (ResponseCode × Sys) :=
  match getServiceForSID (s.srv.r.recvBuf 0) with
  | none => .ok (s.negativeResponse kServiceNotSupported)
  | some service =>
    match service.call B env s with
    | .error e => .error e
    | .ok (response, s) =>
      let suppressPosRspMsgIndicationBit := s.srv.r.recvBuf 1 &&& 0x80 ≠ 0
      let suppressResponse := service.hasSubFunction && suppressPosRspMsgIndicationBit &&
        response = kPositiveResponse
      if s.srv.r.taType = .functional && response.functionallySilent then
        .ok (response, s.noResponse)
      else if suppressResponse then .ok (response, s.noResponse)
      else .ok (response, s)

/-! ### Requests and start-up -/

/-- A received request: what the receive buffer and the memory behind it hold, and how many bytes
of it were received. The receive buffer has at most `65535` bytes. -/
structure Request where
  buf : ℕ → UInt8
  len : ℕ
  len_le : len ≤ 65535

/-- The request that consists of given bytes, with `stale` bytes behind them. -/
def Request.ofBytes (bytes : Bytes) (h : bytes.length ≤ 65535) (stale : ℕ → UInt8) : Request where
  buf i := bytes.getD i (stale i)
  len := bytes.length
  len_le := h

/-- The process when it has peeked a request: `DoipTpPeek` leaves the addressing untouched. If the
function of the upgrade thread has returned meanwhile, `UpgradeServerTest` knows. -/
def Sys.receive (q : Request) : Sys :=
  { s with
    srv.r.recvBuf := q.buf
    srv.r.recvLen := q.len
    srv.r.sendBufSize := B.udsTpMtu.toNat
    app.upgrading := if env.upgradeEnds then false else s.app.upgrading }

/-- A received request is evaluated. -/
def processRequest (q : Request) : Except Fault (ResponseCode × Sys) :=
  evaluateServiceResponse B env (s.receive B env q)

/-- `UDSServerInit`, with the application object as it is constructed and given files. -/
def udsServerInit (fs : Path → Option Bytes) : Sys where
  srv :=
    { p2Ms := udsServerDefaultP2Ms
      p2StarMs := udsServerDefaultP2StarMs
      s3Ms := udsServerDefaultS3Ms
      ecuResetScheduled := 0
      ecuResetTimer := 0
      p2Timer := env.udsMillis 0 + udsServerDefaultP2Ms.toUInt32
      s3SessionTimeoutTimer := env.udsMillis 1 + udsServerDefaultS3Ms.toUInt32
      secAccessAuthFailTimer := env.udsMillis 3
      secAccessBootDelayTimer := env.udsMillis 2 + bruteForceMitigationBootDelayMs
      xferIsActive := false
      xferBlockSequenceCounter := 0
      xferTotalBytes := 0
      xferByteCounter := 0
      xferBlockLength := 0
      sessionType := kDefaultSession
      securityLevel := 0
      rcrrp := false
      requestInProgress := false
      notReadyToReceive := false
      r :=
        { recvBuf := fun _ => 0
          recvLen := 0
          sendBuf := []
          sendBufSize := 0
          taType := .physical } }
  app := {}
  fs := fs
  log := []

end EcuUpgrade
