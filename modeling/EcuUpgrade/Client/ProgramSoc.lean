import EcuUpgrade.Lib.Blocks
import EcuUpgrade.Lib.Programs
import EcuUpgrade.Lib.TrueDivision
import EcuUpgrade.Server.State

/-!
# `ProgramSoc` of the upgrade client

`UDSClient.ProgramSoc` of `uds_client.py`, as a program over a `udsoncan` client. The client is
anything that answers calls or raises; every call is recorded with its outcome. What the function
asks of the machine it runs on (files, the clock, the progress callback) is given as well.

## Main definitions

* `Call`, `UdsClient`, `Session`: the calls of the client and their record.
* `transferBlocks`, `transferFile`: the block loop, and the whole file transfer.
* `programSoc`: the function.
-/

namespace EcuUpgrade

open Programs Programs.Prog TrueDivision Blocks

/-! ### The client library -/

/-- What a statement of the client may raise. -/
inductive PyExc
  | timeout
  | exception (text : String)
  | other
  deriving DecidableEq

/-- The calls of `udsoncan.Client` that `ProgramSoc` makes. -/
inductive Call
  | changeSession (session : UInt8)
  | startRoutine (id : UInt16) (data : Bytes)
  | getRoutineResult (id : UInt16)
  | unlockSecurityAccess (level : UInt8)
  | writeDataByIdentifier (did : UInt16) (value : Bytes)
  | requestFileTransfer (moop : UInt8) (path : Bytes) (dfi : UInt8) (filesize : ℕ)
  | transferData (sequenceNumber : UInt8) (data : Bytes)
  | requestTransferExit
  | ecuReset (resetType : UInt8)
  deriving DecidableEq

/-- The call belongs to the transfer of the file. -/
def Call.isTransfer : Call → Bool
  | .requestFileTransfer .. | .transferData .. | .requestTransferExit => true
  | _ => false

/-- The fields of `response.service_data` that `ProgramSoc` reads. -/
structure Reply where
  routineStatusRecord : Bytes
  maxLength : ℕ
  deriving DecidableEq

/-- A client with a state of its own: each call is answered or raises. -/
def UdsClient (σ : Type) := Call → σ → Except PyExc Reply × σ

/-- The client, the calls made so far with their outcomes, and what is still unread of the file
`file_app`. -/
structure Session (σ : Type) where
  client : σ
  log : List (Call × Except PyExc Reply)
  fileApp : Bytes

/-- What `ProgramSoc` finds on its machine. -/
structure Machine where
  /-- The contents of the file `app`, or the exception of `open`. -/
  app : Except PyExc Bytes
  /-- The progress callback, if there is one. -/
  progressCb : Option (ℕ → Except PyExc Unit)
  /-- `date + self.GetSurportStationNum()`. -/
  fp : Bytes
  /-- `os.path.getsize(app)`. -/
  filesize : Except PyExc ℕ
  /-- The text of the file `app + ".md5"`. -/
  md5Text : Except PyExc (List Char)

abbrev extendedDiagnosticSession : UInt8 := 3

abbrev programmingSession : UInt8 := 2

abbrev defaultSession : UInt8 := 1

abbrev hardReset : UInt8 := 1

variable {σ : Type} (c : UdsClient σ) (m : Machine) (app : Bytes) (fuel : ℕ)

/-- A call of the client. -/
def call (p : Call) : Prog (Session σ) PyExc Reply := fun s =>
  some ((c p s.client).1,
    { s with client := (c p s.client).2, log := s.log ++ [(p, (c p s.client).1)] })

/-! ### Files -/

/-- `file_app.read(size)`: a size of `-1` reads everything, other negative sizes are refused. -/
def readFile (size : ℤ) : Prog (Session σ) PyExc Bytes := fun s =>
  if 0 ≤ size then
    some (.ok (s.fileApp.take size.toNat), { s with fileApp := s.fileApp.drop size.toNat })
  else if size = -1 then some (.ok s.fileApp, { s with fileApp := [] })
  else some (.error .other, s)

/-- `str.isspace` of a character. -/
def strIsSpace (ch : Char) : Bool :=
  let n := ch.toNat
  (0x09 ≤ n && n ≤ 0x0D) || (0x1C ≤ n && n ≤ 0x20) || n == 0x85 || n == 0xA0 || n == 0x1680 ||
    (0x2000 ≤ n && n ≤ 0x200A) || n == 0x2028 || n == 0x2029 || n == 0x202F || n == 0x205F ||
    n == 0x3000

/-- `f.readline().split()[0]`: the first word of the first line. -/
def firstWord (text : List Char) : Except PyExc (List Char) :=
  let line := text.takeWhile fun ch => ch ≠ '\n' && ch ≠ '\r'
  match (line.dropWhile strIsSpace).takeWhile fun ch => !strIsSpace ch with
  | [] => .error .other
  | word => .ok word

/-- The value of a hexadecimal digit. -/
def hexDigitValue (ch : Char) : Option ℕ :=
  if '0' ≤ ch ∧ ch ≤ '9' then some (ch.toNat - '0'.toNat)
  else if 'a' ≤ ch ∧ ch ≤ 'f' then some (ch.toNat - 'a'.toNat + 10)
  else if 'A' ≤ ch ∧ ch ≤ 'F' then some (ch.toNat - 'A'.toNat + 10)
  else none

/-- `bytes.fromhex` of a word. -/
def fromHex : List Char → Except PyExc Bytes
  | [] => .ok []
  | [_] => .error .other
  | a :: b :: rest =>
    match hexDigitValue a, hexDigitValue b, fromHex rest with
    | some h, some l, .ok bytes => .ok (UInt8.ofNat (16 * h + l) :: bytes)
    | _, _, _ => .error .other

/-- `bytes.fromhex(md5_str)`, with everything that can go wrong before. -/
def Machine.md5 : Except PyExc Bytes := do fromHex (← firstWord (← m.md5Text))

/-! ### The transfer of the file -/

/-- `int(filesize / block_size)`, and one more if there is a remainder. The block size can be
negative: then the quotient is truncated towards zero, the remainder is not. -/
def blockCountOf (filesize : ℕ) (blockSize : ℤ) : ℤ :=
  (if 0 ≤ blockSize then (trueDiv filesize blockSize.toNat : ℤ)
    else -(trueDiv filesize (-blockSize).toNat : ℤ)) +
  if Int.fmod filesize blockSize ≠ 0 then 1 else 0

theorem blockCountOf_eq {n b : ℕ} (hb : 0 < b) (hn : n < 2 ^ 53) :
    (blockCountOf n b).toNat = blockCount n b := by
  have hmod : Int.fmod n b = ((n % b : ℕ) : ℤ) := by
    rw [Int.fmod_eq_emod_of_nonneg _ (Int.natCast_nonneg b), Int.natCast_emod]
  unfold blockCountOf blockCount
  rw [if_pos (Int.natCast_nonneg b), Int.toNat_natCast, trueDiv_eq_div hb hn, hmod]
  generalize n / b = d, n % b = r
  split_ifs <;> omega

/-- One round of the retry loop: a block that timed out is sent again. -/
def transferDataRound (sequenceNumber : UInt8) (data : Bytes) :
    Prog (Session σ) PyExc (Option Unit) :=
  tryCatch (do let _ ← call c (.transferData sequenceNumber data); pure (some ()))
    fun e => if e = .timeout then pure none else raise e

variable {c} in
/-- The session after a call. -/
def Session.after (s : Session σ) (p : Call) (r : Except PyExc Reply) (k : σ) : Session σ :=
  { s with client := k, log := s.log ++ [(p, r)] }

variable {c} in
theorem call_eq {p : Call} {s : Session σ} {r : Except PyExc Reply} {k : σ}
    (h : c p s.client = (r, k)) : call c p s = some (r, s.after p r k) := by
  unfold call Session.after
  rw [h]

variable {c} in
/-- A block that is answered ends the retry loop. -/
theorem transferDataRound_ok {seq : UInt8} {data : Bytes} {s : Session σ} {reply : Reply} {k : σ}
    (h : c (.transferData seq data) s.client = (.ok reply, k)) :
    transferDataRound c seq data s =
      some (.ok (some ()), s.after (.transferData seq data) (.ok reply) k) := by
  unfold transferDataRound Prog.tryCatch
  rw [bind_of_ok (call_eq h)]
  rfl

variable {c} in
/-- A block that timed out is sent again. -/
theorem transferDataRound_timeout {seq : UInt8} {data : Bytes} {s : Session σ} {k : σ}
    (h : c (.transferData seq data) s.client = (.error .timeout, k)) :
    transferDataRound c seq data s =
      some (.ok none, s.after (.transferData seq data) (.error .timeout) k) := by
  unfold transferDataRound Prog.tryCatch
  rw [bind_of_error (call_eq h)]
  rfl

variable {c} in
/-- Every other exception leaves the retry loop. -/
theorem transferDataRound_error {seq : UInt8} {data : Bytes} {s : Session σ} {e : PyExc} {k : σ}
    (h : c (.transferData seq data) s.client = (.error e, k)) (he : e ≠ .timeout) :
    transferDataRound c seq data s =
      some (.error e, s.after (.transferData seq data) (.error e) k) := by
  unfold transferDataRound Prog.tryCatch
  rw [bind_of_error (call_eq h)]
  dsimp only
  rw [if_neg he]
  rfl

/-- The body of `for index in range(block_count)`. -/
def sendBlock (blockSize : ℤ) (index : ℕ) : Prog (Session σ) PyExc Unit := do
  let data ← readFile blockSize
  loop fuel (transferDataRound c (UInt8.ofNat (index + 1)) data)

/-- From `os.path.getsize` to the end of the block loop. -/
def transferBlocks : Prog (Session σ) PyExc Unit := do
  let filesize ← ofExcept m.filesize
  let response ← call c (.requestFileTransfer 1 app 0 filesize)
  let blockSize : ℤ := response.maxLength - 2
  if blockSize = 0 then raise .other
  else forM (List.range (blockCountOf filesize blockSize).toNat) (sendBlock c fuel blockSize)

/-- The transfer of the file. -/
def transferFile : Prog (Session σ) PyExc Unit := do
  transferBlocks c m app fuel
  let _ ← call c .requestTransferExit

/-! ### The whole function -/

/-- Opening the file and reporting progress. -/
def openApp : Prog (Session σ) PyExc Unit := do
  let contents ← ofExcept m.app
  (fun s => some (.ok (), { s with fileApp := contents }))
  match m.progressCb with
  | some cb => ofExcept (cb 5)
  | none => pure ()

/-- Up to the fingerprint: session, precondition, session, security access. -/
def prepareEcu : Prog (Session σ) PyExc Unit := do
  let _ ← call c (.changeSession extendedDiagnosticSession)
  let response ← call c (.startRoutine 0x0203 [])
  if response.routineStatusRecord.head? ≠ some 0 then
    raise (.exception "Unable to program the ECU")
  else do
    let _ ← call c (.changeSession programmingSession)
    let _ ← call c (.unlockSecurityAccess 5)
    let _ ← call c (.writeDataByIdentifier 0xF15A m.fp)

/-- One round of polling the upgrade routine. -/
def pollRound : Prog (Session σ) PyExc (Option Unit) := do
  let response ← call c (.getRoutineResult 0xFF02)
  match response.routineStatusRecord with
  | [] => raise .other
  | ret :: _ => pure (if ret ≠ 2 then some () else none)

/-- The checksum, the upgrade and the reset. The status records of the two routines that are
started are not looked at. -/
def upgradeEcu : Prog (Session σ) PyExc Unit := do
  let md5 ← ofExcept m.md5
  let _ ← call c (.startRoutine 0x0202 md5)
  let _ ← call c (.startRoutine 0xFF02 [])
  loop fuel (pollRound c)
  let _ ← call c (.ecuReset hardReset)

/-- `ProgramSoc`: `result` and `reson`. The loops have `fuel` rounds each. The handler of the
exceptions raises them again, so that the statements behind its `raise` are never reached. -/
def programSoc : Prog (Session σ) PyExc (Bool × String) :=
  tryFinally
    (tryCatch (do
      openApp m
      prepareEcu c m
      transferFile c m app fuel
      upgradeEcu c m fuel
      pure (true, "")) fun e => raise e)
    (call c (.changeSession defaultSession))

end EcuUpgrade
