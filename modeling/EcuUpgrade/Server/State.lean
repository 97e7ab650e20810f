import Mathlib.Algebra.Order.Ring.Nat

/-!
# State of the upgrade server

The process consists of the UDS server of `iso14229.c` (`UDSServer_t`), the application object
of `upgrade_server.cpp` (`UpgradeServer` with its subclasses) and the files it works on. This
file defines these states, the events which the UDS server emits to the application, the
outcomes of the system calls an evaluation may meet, and the build parameters.

Lengths and sizes of type `size_t` are natural numbers, with the reduction modulo `2 ^ 64`
written where it can matter; bytes, levels, counters and timers keep their width. Of the send
buffer only the bytes below `send_len` are kept: every service writes them from index 0 on
without gaps, and nothing reads beyond them.

## Main definitions

* `ResponseCode`: the response codes of ISO 14229-1 that the program uses.
* `UDSReq`, `UDSServer`, `UpgradeServer`, `Sys`: the state.
* `UDSServerEvent`: the events emitted to the application, with their arguments.
* `Env`: what the clock and the system calls return while one request is evaluated.
* `Build`: `UDS_TP_MTU` and the subclass of `UpgradeServer`.
-/

namespace EcuUpgrade

abbrev Bytes := List UInt8

/-- The name of a file, as the bytes handed to `fopen`. -/
abbrev Path := List UInt8

/-- Response codes returned by services and handlers. -/
inductive ResponseCode
  | kPositiveResponse
  | kGeneralReject
  | kServiceNotSupported
  | kSubFunctionNotSupported
  | kIncorrectMessageLengthOrInvalidFormat
  | kResponseTooLong
  | kConditionsNotCorrect
  | kRequestSequenceError
  | kFailurePreventsExecutionOfRequestedAction
  | kRequestOutOfRange
  | kExceedNumberOfAttempts
  | kRequiredTimeDelayNotExpired
  | kUploadDownloadNotAccepted
  | kTransferDataSuspended
  | kGeneralProgrammingFailure
  | kRequestCorrectlyReceivedResponsePending
  | kSubFunctionNotSupportedInActiveSession
  | kServiceNotSupportedInActiveSession
  deriving DecidableEq, Repr

open ResponseCode

/-- The byte that stands for a code in a negative response. -/
def ResponseCode.toByte : ResponseCode → UInt8
  | kPositiveResponse => 0x00
  | kGeneralReject => 0x10
  | kServiceNotSupported => 0x11
  | kSubFunctionNotSupported => 0x12
  | kIncorrectMessageLengthOrInvalidFormat => 0x13
  | kResponseTooLong => 0x14
  | kConditionsNotCorrect => 0x22
  | kRequestSequenceError => 0x24
  | kFailurePreventsExecutionOfRequestedAction => 0x26
  | kRequestOutOfRange => 0x31
  | kExceedNumberOfAttempts => 0x36
  | kRequiredTimeDelayNotExpired => 0x37
  | kUploadDownloadNotAccepted => 0x70
  | kTransferDataSuspended => 0x71
  | kGeneralProgrammingFailure => 0x72
  | kRequestCorrectlyReceivedResponsePending => 0x78
  | kSubFunctionNotSupportedInActiveSession => 0x7E
  | kServiceNotSupportedInActiveSession => 0x7F

/-- `UDS_A_TA_Type_t`: how a request was addressed. -/
inductive TaType
  | physical
  | functional
  deriving DecidableEq, Repr

/-- `UDSReq_t`. `recvBuf` is the memory from `recv_buf` on, whatever lies beyond `recvLen`
included; `sendBuf` holds the `send_len` bytes written to `send_buf`. -/
@[ext] structure UDSReq where
  recvBuf : ℕ → UInt8
  recvLen : ℕ
  sendBuf : Bytes
  sendBufSize : ℕ
  taType : TaType

/-- `UDSServer_t`, without the pointers `tp` and `fn` that are set once. -/
@[ext] structure UDSServer where
  p2Ms : UInt16
  p2StarMs : UInt32
  s3Ms : UInt16
  ecuResetScheduled : UInt8
  ecuResetTimer : UInt32
  p2Timer : UInt32
  s3SessionTimeoutTimer : UInt32
  secAccessAuthFailTimer : UInt32
  secAccessBootDelayTimer : UInt32
  xferIsActive : Bool
  xferBlockSequenceCounter : UInt8
  xferTotalBytes : ℕ
  xferByteCounter : ℕ
  xferBlockLength : ℕ
  sessionType : UInt8
  securityLevel : UInt8
  rcrrp : Bool
  requestInProgress : Bool
  notReadyToReceive : Bool
  r : UDSReq

/-- The members of `UpgradeServer` and of its subclasses. `fwFile` is the name of the stream
`fw_file_` when it is not null; `upgradeThread` says whether `upgrade_thread_` is joinable;
`upgrading` is the member of `UpgradeServerTest`. -/
@[ext] structure UpgradeServer where
  seed : UInt32 := 0
  fwFilename : Bytes := []
  fwFile : Option Path := none
  upgradeThread : Bool := false
  upgrading : Bool := false

/-- `UDSRequestFileTransferArgs_t`, the path given by its bytes. -/
structure FileTransferArgs where
  modeOfOperation : UInt8
  filePath : Bytes
  dataFormatIdentifier : UInt8
  fileSizeUnCompressed : ℕ
  fileSizeCompressed : ℕ
  deriving DecidableEq, Repr

/-- The events emitted to the application, with what they point to. -/
inductive UDSServerEvent
  | diagSessCtrl (type : UInt8)
  | ecuReset (type : UInt8)
  | readDataByIdent (dataId : UInt16)
  | readMemByAddr (memAddr memSize : ℕ)
  | commCtrl (ctrlType commType : UInt8)
  | secAccessRequestSeed (level : UInt8) (dataRecord : Bytes)
  | secAccessValidateKey (level : UInt8) (key : Bytes)
  | writeDataByIdent (dataId : UInt16) (data : Bytes)
  | routineCtrl (ctrlType : UInt8) (id : UInt16) (optionRecord : Bytes)
  | requestDownload (addr size : ℕ) (dataFormatIdentifier : UInt8)
  | requestUpload (addr size : ℕ) (dataFormatIdentifier : UInt8)
  | transferData (data : Bytes)
  | requestTransferExit (data : Bytes)
  | requestFileTransfer (args : FileTransferArgs)
  | sessionTimeout
  | doScheduledReset (type : UInt8)
  deriving DecidableEq, Repr

/-- What an evaluation does that can be seen from outside the UDS server: the events emitted to
the application and what the application does to files and processes. -/
inductive Effect
  | emit (ev : UDSServerEvent)
  | fopen (path : Path)
  | fwrite (path : Path) (data : Bytes)
  | fclose (path : Path)
  | fileNotOpened
  | mkdir (path : Path)
  | remove (path : Path)
  | popen (cmd : Bytes)
  | system (cmd : Bytes)
  | startUpgradeThread
  deriving DecidableEq, Repr

/-- The process: the two objects, the contents of the files, and the effects so far, the latest
last. -/
@[ext] structure Sys where
  srv : UDSServer
  app : UpgradeServer
  fs : Path → Option Bytes
  log : List Effect

/-- Ways in which an evaluation ends the process: an uncaught C++ exception, `std::terminate`,
a write past an array, or `fclose` on a null stream. What the function that calls `std::terminate`
has done before is kept. -/
inductive Fault
  | popenFailed
  | outOfRange
  | invalidArgument
  | checksumOverflow
  | terminate (done : List Effect)
  | fcloseNull
  deriving DecidableEq, Repr

/-- What the clock and the system calls return while one request is evaluated. -/
structure Env where
  /-- The successive readings of the clock, in milliseconds. -/
  millis : ℕ → ℕ
  /-- The bytes read from `/dev/urandom`, or `none` if it cannot be opened. -/
  urandom : Option (Vector UInt8 4)
  /-- Whether `fopen` of the firmware file succeeds. -/
  fopenFw : Bool
  /-- How many bytes a call of `fwrite` on the firmware file can write. -/
  fwriteFw : ℕ
  /-- The contents of `/etc/bsp_version`, or `none` if it cannot be opened. -/
  bspVersion : Option Bytes
  /-- Whether `stat` finds the directory of the data identifiers. -/
  statDid : Bool
  /-- Whether `mkdir` creates it. -/
  mkdirDid : Bool
  /-- Whether `fopen` of the data identifier file for writing succeeds. -/
  fopenDid : Bool
  /-- How many bytes a call of `fwrite` on that file can write. -/
  fwriteDid : ℕ
  /-- Whether `fopen` of that file for reading succeeds if it exists. -/
  fopenDidRead : Bool
  /-- The text read back from the `md5sum` pipe, or `none` if `popen` fails. -/
  md5Text : Option Bytes
  /-- What the uninitialised checksum array holds. -/
  chsumInit : Vector UInt8 16
  /-- Whether the function of a running upgrade thread has returned since the last request. -/
  upgradeEnds : Bool

/-- `UDSMillis` at the `k`-th call: the time truncated to 32 bits. -/
def Env.udsMillis (env : Env) (k : ℕ) : UInt32 := UInt32.ofNat (env.millis k)

/-- The subclasses of `UpgradeServer` that have a body. -/
inductive Target
  | t5
  | test
  deriving DecidableEq, Repr

/-- The parameters of a build: the macro `UDS_TP_MTU` and the subclass that is instantiated. -/
structure Build where
  udsTpMtu : UInt16
  target : Target

/-- The bytes of an ASCII text. -/
def ascii (cs : List Char) : Bytes := cs.map Char.toUInt8

/-- `data_path_`. -/
def Build.dataPath (B : Build) : Bytes :=
  match B.target with
  | .t5 => ascii ['/', 'd', 'a', 't', 'a']
  | .test => ascii ['/', 't', 'm', 'p']

/-- `did_path_`. -/
def Build.didPath (B : Build) : Bytes := B.dataPath ++ ascii ['/', 'd', 'i', 'd', 's']

/-- The file of the data identifier `0xF15A`. -/
def Build.didFile (B : Build) : Path := B.didPath ++ ascii ['/', 'F', '1', '5', 'A']

/-- `std::string::c_str` as the file functions read it: up to the first NUL. -/
def cStr (s : Bytes) : Bytes := s.takeWhile (· ≠ 0)

/-! ### Timing constants of `iso14229.h` -/

abbrev udsServerDefaultP2Ms : UInt16 := 50
abbrev udsServerDefaultP2StarMs : UInt32 := 2000
abbrev udsServerDefaultS3Ms : UInt16 := 3000
abbrev bruteForceMitigationBootDelayMs : UInt32 := 1000
abbrev bruteForceMitigationAuthFailDelayMs : UInt32 := 1000
abbrev kDefaultSession : UInt8 := 0x01

/-- Returns true if `a` is after `b`: the difference of the two times is negative when it is
read as a signed number. -/
def udsTimeAfter (a b : UInt32) : Bool := decide ((b - a).toInt32 < 0)

/-- `size_t` subtraction. -/
def subSize (a b : ℕ) : ℕ := if b ≤ a then a - b else a + 2 ^ 64 - b

theorem subSize_of_le {a b : ℕ} (h : b ≤ a) : subSize a b = a - b := if_pos h

/-- A `size_t` difference stored in a `uint16_t`. -/
def subSize16 (a b : ℕ) : ℕ := subSize a b % 2 ^ 16

/-- A big-endian `uint16_t` built from two bytes. -/
def word16 (hi lo : UInt8) : UInt16 := (hi.toUInt16 <<< 8) + lo.toUInt16

/-- The two bytes of an identifier, the high one first. -/
def didBytes (dataId : UInt16) : Bytes := [(dataId >>> 8).toUInt8, dataId.toUInt8]

@[simp] theorem length_didBytes (dataId : UInt16) : (didBytes dataId).length = 2 := rfl

/-- The `k` bytes of a buffer from `off` on. -/
def bytesAt (buf : ℕ → UInt8) (off k : ℕ) : Bytes := (List.range' off k).map buf

@[simp] theorem length_bytesAt (buf : ℕ → UInt8) (off k : ℕ) : (bytesAt buf off k).length = k := by
  simp [bytesAt]

theorem bytesAt_succ (buf : ℕ → UInt8) (off k : ℕ) :
    bytesAt buf off (k + 1) = buf off :: bytesAt buf (off + 1) k := by
  rw [bytesAt, List.range'_succ, List.map_cons]
  rfl

/-- A buffer into which `data` was copied. -/
theorem bytesAt_getD (data : Bytes) (stale : ℕ → UInt8) :
    bytesAt (fun i => data.getD i (stale i)) 0 data.length = data := by
  refine List.ext_getElem (by simp) fun i hi hi' => ?_
  simp [bytesAt, List.getElem?_eq_getElem hi']

/-- The `len` bytes of the receive buffer from `off` on. -/
def UDSReq.recvSlice (r : UDSReq) (off len : ℕ) : Bytes := bytesAt r.recvBuf off len

/-! ### Elementary steps

Every assignment of a service or handler to a member of the two objects is one of these steps. -/

namespace Sys

variable (s : Sys)

/-- The process after an effect. -/
def emit (e : Effect) : Sys := { s with log := s.log ++ [e] }

/-- The process with the response `bs` in the send buffer. -/
def setSend (bs : Bytes) : Sys := { s with srv.r.sendBuf := bs }

/-- The contents of the file `path` replaced. -/
def setFile (path : Path) (c : Option Bytes) : Sys :=
  { s with fs := fun p => if p = path then c else s.fs p }

/-- The diagnostic session changed. -/
def setSession (sessType : UInt8) : Sys := { s with srv.sessionType := sessType }

/-- The S3 timer restarted at the time `now`. -/
def restartS3 (now : UInt32) : Sys :=
  { s with srv.s3SessionTimeoutTimer := now + s.srv.s3Ms.toUInt32 }

/-- A reset scheduled for the time `timer`. -/
def scheduleReset (resetType : UInt8) (timer : UInt32) : Sys :=
  { s with
    srv.notReadyToReceive := true
    srv.ecuResetScheduled := resetType
    srv.ecuResetTimer := timer }

/-- The reset no longer scheduled. -/
def clearReset : Sys := { s with srv.ecuResetScheduled := 0 }

/-- The delay after a failed attempt to unlock runs until the time `timer`. -/
def setAuthFailTimer (timer : UInt32) : Sys := { s with srv.secAccessAuthFailTimer := timer }

/-- The security level changed. -/
def setSecurityLevel (level : UInt8) : Sys := { s with srv.securityLevel := level }

/-- The seed `seed_` changed. -/
def setSeed (seed : UInt32) : Sys := { s with app.seed := seed }

/-- `ResetTransfer`. -/
def resetTransfer : Sys :=
  { s with
    srv.xferBlockSequenceCounter := 1
    srv.xferByteCounter := 0
    srv.xferTotalBytes := 0
    srv.xferIsActive := false }

/-- The assignments after `ResetTransfer` that start a transfer. -/
def startTransfer (total blockLength : ℕ) : Sys :=
  { s.resetTransfer with
    srv.xferIsActive := true
    srv.xferTotalBytes := total
    srv.xferBlockLength := blockLength }

/-- The block sequence counter increased. -/
def nextBlock : Sys :=
  { s with srv.xferBlockSequenceCounter := s.srv.xferBlockSequenceCounter + 1 }

/-- The byte counter increased, as a `size_t`. -/
def countBytes (n : ℕ) : Sys :=
  { s with srv.xferByteCounter := (s.srv.xferByteCounter + n) % 2 ^ 64 }

/-- The name `fw_filename_` changed. -/
def setFwFilename (name : Bytes) : Sys := { s with app.fwFilename := name }

/-- The stream `fw_file_` changed. -/
def setFwFile (file : Option Path) : Sys := { s with app.fwFile := file }

/-- The flag of the running upgrade of `UpgradeServerTest` changed. -/
def setUpgrading (b : Bool) : Sys := { s with app.upgrading := b }

/-- A thread assigned to `upgrade_thread_`. -/
def setUpgradeThread : Sys := { s with app.upgradeThread := true }

/-- `NegativeResponse`. -/
def negativeResponse (code : ResponseCode) : ResponseCode × Sys :=
  (code, s.setSend [0x7F, s.srv.r.recvBuf 0, code.toByte])

/-- `NoResponse`. -/
def noResponse : Sys := s.setSend []

/-- `safe_copy`: append bytes to the response if the send buffer has room for them. -/
def safeCopy (src : Bytes) : ResponseCode × Sys :=
  if src.length ≤ subSize s.srv.r.sendBufSize s.srv.r.sendBuf.length then
    (kPositiveResponse, s.setSend (s.srv.r.sendBuf ++ src))
  else (kResponseTooLong, s)

/-- A status is appended to the response. -/
theorem safeCopy_status {status : UInt8} (h : s.srv.r.sendBufSize ≠ s.srv.r.sendBuf.length)
    (h' : s.srv.r.sendBuf.length < 2 ^ 64) :
    (s.safeCopy [status]).2.srv.r.sendBuf = s.srv.r.sendBuf ++ [status] := by
  have hroom : ([status] : Bytes).length ≤ subSize s.srv.r.sendBufSize s.srv.r.sendBuf.length := by
    rw [List.length_singleton]
    unfold subSize
    split_ifs <;> omega
  rw [safeCopy, if_pos hroom]
  rfl

@[simp] theorem negativeResponse_fst (code : ResponseCode) : (s.negativeResponse code).1 = code :=
  rfl

@[simp] theorem setFile_fs_self (path : Path) (c : Option Bytes) :
    (s.setFile path c).fs path = c := by
  simp [setFile]

end Sys

end EcuUpgrade
