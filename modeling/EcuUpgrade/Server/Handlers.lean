import EcuUpgrade.Server.State
import Mathlib.Logic.Function.Iterate

/-!
# Event handlers of `UpgradeServer`

`UpgradeServer` registers one handler for each event of the UDS server; `EmitEvent` ends in the
handler registered for the emitted event. Every definition here is one of these handlers, under
its name in `upgrade_server.cpp`, or a function it calls. A handler takes the arguments the
event points to and returns a response code with the process it leaves behind, or the fault by
which it ends the process.

A file holds the bytes that `fwrite` took: the result of `fclose`, which no handler looks at, has no
part in the model. The command lines for the shell are recorded as effects; what the commands do to
files is not modelled.

## Main definitions

* `seedToKey`: the key algorithm of `security_alg.c`.
* `calcFileChecksum`: the parser of the output of `md5sum`.
* `handleRequestSeed`, …, `handleDoScheduledReset`: the handlers.
-/

namespace EcuUpgrade

open ResponseCode

variable (B : Build) (env : Env) (s : Sys)

/-! ### Security access -/

/-- One round of `seedToKey`. -/
def seedToKeyRound (learmask seed : UInt32) : UInt32 :=
  if seed &&& 0x80000000 ≠ 0 then (seed <<< 1) ^^^ learmask else seed <<< 1

/-- `seedToKey` of `security_alg.c`. -/
def seedToKey (seed learmask : UInt32) : UInt32 :=
  if seed ≠ 0 then (seedToKeyRound learmask)^[32] seed else 0

/-- The mask used by client and server. -/
abbrev learmask : UInt32 := 0x7A6B5C4D

/-- The big-endian word that four bytes of a buffer make. -/
def word32 (b : ℕ → UInt8) : UInt32 :=
  ((b 0).toUInt32 <<< 24) + ((b 1).toUInt32 <<< 16) + ((b 2).toUInt32 <<< 8) + (b 3).toUInt32

/-- `HandleRequestSeed`. -/
def handleRequestSeed : ResponseCode × Sys :=
  match env.urandom with
  | none => (kGeneralReject, s)
  | some buf => (s.setSeed (word32 fun i => buf.toList.getD i 0)).safeCopy buf.toList

/-- `HandleValidateKey`. -/
def handleValidateKey (key : Bytes) : ResponseCode :=
  if key.length ≠ 4 then kGeneralReject
  else if word32 (fun i => key.getD i 0) ≠ seedToKey s.app.seed learmask then kGeneralReject
  else kPositiveResponse

/-! ### Session, reset and identifiers -/

/-- `HandleDiagSessCtrl`: the code and the two times it puts into the arguments. -/
def handleDiagSessCtrl : ResponseCode × UInt16 × UInt32 :=
  (kPositiveResponse, s.srv.p2Ms, s.srv.p2StarMs)

/-- `HandleEcuReset`: the code and the power down time it puts into the arguments. -/
def handleEcuReset : ResponseCode × UInt32 := (kPositiveResponse, 500)

/-- `fread` of one item over a buffer: the bytes there are replace the first ones. -/
def freadInto (buf : Bytes) : Option Bytes → Bytes
  | none => buf
  | some c => c.take buf.length ++ buf.drop c.length

/-- An array of `n` bytes initialised with `{0xff}`. -/
def ffArray (n : ℕ) : Bytes := 0xFF :: List.replicate (n - 1) 0

/-- `HandleReadDataByIdent`. The result of the copy callback is not looked at. -/
def handleReadDataByIdent (dataId : UInt16) : ResponseCode × Sys :=
  if dataId = 0xF195 then
    (kPositiveResponse, (s.safeCopy (freadInto (ffArray 21) env.bspVersion)).2)
  else if dataId = 0xF15A then
    let contents := if env.fopenDidRead then s.fs B.didFile else none
    (kPositiveResponse, (s.safeCopy (freadInto (ffArray 12) contents)).2)
  else (kRequestOutOfRange, s)

/-- `HandleReadMemByAddr`. -/
def handleReadMemByAddr : ResponseCode := kServiceNotSupported

/-- `HandleCommCtrl`. -/
def handleCommCtrl : ResponseCode := kServiceNotSupported

/-- `HandleWriteDataByIdent`. Whether the data was written is decided by what `fwrite` took. -/
def handleWriteDataByIdent (dataId : UInt16) (data : Bytes) : ResponseCode × Sys :=
  if dataId = 0xF15A then
    let s := if env.statDid then s else s.emit (.mkdir B.didPath)
    if !env.statDid && !env.mkdirDid then (kFailurePreventsExecutionOfRequestedAction, s)
    else
      let s := s.emit (.fopen B.didFile)
      if !env.fopenDid then (kFailurePreventsExecutionOfRequestedAction, s)
      else
        let size := min env.fwriteDid data.length
        let s := ((s.setFile B.didFile (some (data.take size))).emit
          (.fwrite B.didFile (data.take size))).emit (.fclose B.didFile)
        if size ≠ data.length then
          (kFailurePreventsExecutionOfRequestedAction,
            (s.setFile B.didFile none).emit (.remove B.didFile))
        else (kPositiveResponse, s)
  else (kRequestOutOfRange, s)

/-! ### Routines -/

/-- The value of a hexadecimal digit. -/
def hexDigit (c : UInt8) : Option ℕ :=
  if 0x30 ≤ c ∧ c ≤ 0x39 then some (c.toNat - 0x30)
  else if 0x61 ≤ c ∧ c ≤ 0x66 then some (c.toNat - 0x61 + 10)
  else if 0x41 ≤ c ∧ c ≤ 0x46 then some (c.toNat - 0x41 + 10)
  else none

/-- `isspace` in the C locale. -/
def isSpace (c : UInt8) : Bool := c = 0x20 || (0x09 ≤ c && c ≤ 0x0D)

/-- `static_cast<uint8_t>(stoi(str, nullptr, 16))` for a string of one or two characters; `none`
stands for the exception thrown when there is no digit. -/
def stoi16 (str : Bytes) : Option UInt8 :=
  let str := str.dropWhile isSpace
  let negative := str.head? = some 0x2D
  let str := if negative || str.head? = some 0x2B then str.tail else str
  match (str.takeWhile fun c => (hexDigit c).isSome).filterMap hexDigit with
  | [] => none
  | ds =>
    let value := UInt8.ofNat (ds.foldl (fun acc d => acc * 16 + d) 0)
    some (if negative then 0 - value else value)

/-- The loop of `calcFileChecksum` from the `i`-th byte of the checksum on. -/
def checksumLoop : Bytes → ℕ → Bytes → Except Fault Bytes
  | [], _, checksum => .ok checksum
  | [a], i, checksum => storeByte (stoi16 [a]) i checksum
  | a :: b :: rest, i, checksum => do
    let checksum ← storeByte (stoi16 [a, b]) i checksum
    checksumLoop rest (i + 1) checksum
where
  /-- `checksum[i] = byteValue`, after the conversion. -/
  storeByte : Option UInt8 → ℕ → Bytes → Except Fault Bytes
    | none, _, _ => .error .invalidArgument
    | some v, i, checksum => if i < 16 then .ok (checksum.set i v) else .error .checksumOverflow

/-- `calcFileChecksum` on the text of the pipe. Erasing from the first blank on throws when there
is none. -/
def calcFileChecksum (text : Option Bytes) (checksum : Bytes) : Except Fault Bytes :=
  match text with
  | none => .error .popenFailed
  | some result =>
    if 0x20 ∈ result then checksumLoop (result.takeWhile (· ≠ 0x20)) 0 checksum
    else .error .outOfRange

/-- `RequestUpgradeFw`. The thread is started before it is assigned, and assigning it to a joinable
one calls `std::terminate`. It reads `fw_filename_` itself, when it runs; the thread of
`UpgradeServerTest` only sleeps. -/
def requestUpgradeFw : Except Fault (UInt8 × Sys) :=
  let s := match B.target with
    | .t5 => s
    | .test => s.setUpgrading true
  if s.app.upgradeThread then .error (.terminate [.startUpgradeThread])
  else .ok (0, (s.emit .startUpgradeThread).setUpgradeThread)

/-- `QueryUpgradeProgress`. -/
def queryUpgradeProgress : UInt8 × Sys :=
  match B.target with
  | .t5 =>
    if s.app.upgradeThread then (2, s)
    else (0, s.emit (.system (ascii ['u', 'p', 'd', 'a', 't', 'e', '_', 'e', 'n', 'g', 'i', 'n',
      'e', '_', 'c', 'l', 'i', 'e', 'n', 't', ' ', '-', '-', 'c', 'h', 'e', 'c', 'k'])))
  | .test => if s.app.upgrading then (2, s) else (0, s)

abbrev kStartRoutine : UInt8 := 1
abbrev kStopRoutine : UInt8 := 2
abbrev kRequestRoutineResults : UInt8 := 3

/-- The comparison of the digests, byte after byte up to the first difference. -/
def compareLoop : Bytes → Bytes → UInt8
  | c :: chsum, o :: optionRecord => if c ≠ o then 1 else compareLoop chsum optionRecord
  | _, _ => 0

/-- `HandleRoutineCtrl`. The results of the copy callback are not looked at. What the shell does
with a command line is outside the model, except for the text that it prints. -/
def handleRoutineCtrl (ctrlType : UInt8) (id : UInt16) (optionRecord : Bytes) :
    Except Fault (ResponseCode × Sys) :=
  if id = 0x0202 then
    if ctrlType ≠ kStartRoutine then .ok (kSubFunctionNotSupported, s)
    else if optionRecord.length ≠ 16 then .ok (kIncorrectMessageLengthOrInvalidFormat, s)
    else
      let s := s.emit (.popen (ascii ['m', 'd', '5', 's', 'u', 'm', ' '] ++ s.app.fwFilename))
      match calcFileChecksum env.md5Text env.chsumInit.toList with
      | .error e => .error e
      | .ok chsum =>
        .ok (kPositiveResponse, (s.safeCopy [compareLoop chsum optionRecord]).2)
  else if id = 0x0203 then
    if ctrlType ≠ kStartRoutine then .ok (kSubFunctionNotSupported, s)
    else .ok (kPositiveResponse, (s.safeCopy [0]).2)
  else if id = 0xFF02 then
    if ctrlType = kStartRoutine then
      match requestUpgradeFw B s with
      | .error e => .error e
      | .ok (result, s) => .ok (kPositiveResponse, (s.safeCopy [result]).2)
    else if ctrlType = kRequestRoutineResults then
      let (result, s) := queryUpgradeProgress B s
      .ok (kPositiveResponse, (s.safeCopy [result]).2)
    else .ok (kSubFunctionNotSupported, s)
  else .ok (kSubFunctionNotSupported, s)

/-! ### Transfers -/

/-- `HandleRequestDownload`. -/
def handleRequestDownload : ResponseCode := kServiceNotSupported

/-- `HandleRequestUpload`. -/
def handleRequestUpload : ResponseCode := kServiceNotSupported

/-- `HandleTransferData`. -/
def handleTransferData (data : Bytes) : ResponseCode × Sys :=
  match s.app.fwFile with
  | none => (kGeneralProgrammingFailure, s.emit .fileNotOpened)
  | some path =>
    let written := data.take env.fwriteFw
    let s := (s.setFile path (some ((s.fs path).getD [] ++ written))).emit (.fwrite path written)
    if written.length ≠ data.length then (kGeneralProgrammingFailure, s)
    else (kPositiveResponse, s)

/-- `HandleRequestTransferExit`. The stream is gone whatever `fclose` returns. -/
def handleRequestTransferExit : Except Fault (ResponseCode × Sys) :=
  match s.app.fwFile with
  | none => .error .fcloseNull
  | some path =>
    .ok (kPositiveResponse,
      ((s.emit (.fclose path)).setFwFile none).emit (.system (ascii ['s', 'y', 'n', 'c'])))

/-- What `find_last_of("/")` and `erase(0, pos)` leave of a path: everything from its last slash
on, or all of it if it has none. -/
def eraseDirs (filename : Bytes) : Bytes :=
  match filename.reverse.findIdx? (· = 0x2F) with
  | none => filename
  | some k => filename.drop (filename.length - 1 - k)

/-- `HandleRequestFileTransfer`: the code, the process and the `maxNumberOfBlockLength` put into
the arguments. -/
def handleRequestFileTransfer (args : FileTransferArgs) : ResponseCode × Sys × UInt16 :=
  let filename := eraseDirs args.filePath
  let fwFilename := B.dataPath ++ [0x2F] ++ filename
  let path := cStr fwFilename
  let s := (s.setFwFilename fwFilename).emit (.fopen path)
  if !env.fopenFw then (kUploadDownloadNotAccepted, s.setFwFile none, 0)
  else (kPositiveResponse, (s.setFile path (some [])).setFwFile (some path), B.udsTpMtu)

/-! ### Timers -/

/-- `HandleSessionTimeout`. -/
def handleSessionTimeout : ResponseCode × Sys := (kPositiveResponse, s)

/-- `HandleDoScheduledReset`, with `RebootDevice` of the subclass. -/
def handleDoScheduledReset : ResponseCode × Sys :=
  let s := s.clearReset
  match B.target with
  | .t5 => (kPositiveResponse, s.emit (.system (ascii ['r', 'e', 'b', 'o', 'o', 't'])))
  | .test => (kPositiveResponse, s)

end EcuUpgrade
