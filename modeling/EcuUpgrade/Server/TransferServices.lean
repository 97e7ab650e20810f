import EcuUpgrade.Server.Runs

/-!
# The services of a file transfer

Each of `TransferData`, `RequestTransferExit` and `RequestFileTransfer` has few outcomes. They are
stated here once, with the conditions under which each occurs and the state it leaves, so that the
properties of transfers need not unfold the services.

## Main definitions

* `Sys.blockData`: the data of the `TransferData` request under evaluation.
* `Sys.acceptBlock`, `Sys.closeTransfer`, `Sys.openTransfer`: the states after a positive answer.

## Main results

* `transferData0x36_accept`, `transferData0x36_cases`
* `requestTransferExit0x37_cases`
* `requestFileTransfer0x38_cases`
-/

namespace EcuUpgrade

open ResponseCode BigEndian

variable {B : Build} {env : Env} {s t : Sys} {c : ResponseCode}

/-! ### TransferData -/

/-- The data of a `TransferData` request. -/
def Request.blockData (q : Request) : Bytes := bytesAt q.buf 2 (q.len - 2)

/-- The data of the `TransferData` request under evaluation. -/
def Sys.blockData (s : Sys) : Bytes := s.srv.r.recvSlice 2 (subSize16 s.srv.r.recvLen 2)

/-- What is left of the state when a block has been accepted and written to `path`. -/
def Sys.acceptBlock (s : Sys) (path : Path) : Sys :=
  let s' := (s.nextBlock.setSend [responseSidOf kSIDTransferData, s.srv.r.recvBuf 1]).emitEvent
    (.transferData s.blockData)
  ((s'.setFile path (some ((s.fs path).getD [] ++ s.blockData))).emit
    (.fwrite path s.blockData)).countBytes (subSize16 s.srv.r.recvLen 2)

/-- The conditions under which a block is accepted and written to `path`. -/
structure BlockAccepted (env : Env) (s : Sys) (path : Path) : Prop where
  active : s.srv.xferIsActive = true
  two_le : 2 ≤ s.srv.r.recvLen
  counter : s.srv.r.recvBuf 1 = s.srv.xferBlockSequenceCounter
  admitted : (s.srv.xferByteCounter + subSize16 s.srv.r.recvLen 2) % 2 ^ 64 ≤ s.srv.xferTotalBytes
  opened : s.app.fwFile = some path
  written : s.blockData.length ≤ env.fwriteFw

@[simp] theorem length_recvSlice (r : UDSReq) (off len : ℕ) :
    (r.recvSlice off len).length = len := by
  simp [UDSReq.recvSlice]

@[simp] theorem Sys.length_blockData (s : Sys) :
    s.blockData.length = subSize16 s.srv.r.recvLen 2 := by
  simp [Sys.blockData]

/-- What a refused block leaves behind. -/
structure BlockRefused (s : Sys) (c : ResponseCode) (t : Sys) : Prop where
  negative : c ≠ kPositiveResponse
  notPending : c ≠ kRequestCorrectlyReceivedResponsePending
  inactive : t.srv.xferIsActive = false
  sent : t.srv.r.sendBuf = [0x7F, s.srv.r.recvBuf 0, c.toByte]
  notOpened : s.app.fwFile ≠ none → Component.notOpened.Same s t

theorem blockRefused_transferDataFail {u : Sys} {err : ResponseCode} (h : err ≠ kPositiveResponse)
    (h' : err ≠ kRequestCorrectlyReceivedResponsePending)
    (hreq : u.srv.r.recvBuf 0 = s.srv.r.recvBuf 0)
    (hlog : s.app.fwFile ≠ none → Component.notOpened.Same s u) :
    BlockRefused s (transferDataFail u err).1 (transferDataFail u err).2 where
  negative := h
  notPending := h'
  inactive := rfl
  sent := congrArg (fun b => [0x7F, b, err.toByte]) hreq
  notOpened hne := by
    simpa [transferDataFail, Component.same_resetTransfer] using hlog hne

/-- The outcome of writing a block. -/
theorem handleTransferData_cases (env : Env) (s : Sys) (data : Bytes) :
    (∃ path, s.app.fwFile = some path ∧ data.length ≤ env.fwriteFw ∧
        handleTransferData env s data = (kPositiveResponse,
          (s.setFile path (some ((s.fs path).getD [] ++ data))).emit (.fwrite path data))) ∨
      ∃ u, handleTransferData env s data = (kGeneralProgrammingFailure, u) ∧
        u.srv = s.srv ∧ (s.app.fwFile ≠ none → Component.notOpened.Same s u) ∧
        (s.app.fwFile ≠ none → env.fwriteFw < data.length) := by
  unfold handleTransferData
  cases hfile : s.app.fwFile with
  | none => exact .inr ⟨_, rfl, rfl, fun hne => absurd rfl hne, fun hne => absurd rfl hne⟩
  | some path =>
    dsimp only
    by_cases hlen : data.length ≤ env.fwriteFw
    · have htake : data.take env.fwriteFw = data := List.take_of_length_le hlen
      refine .inl ⟨path, rfl, hlen, ?_⟩
      rw [htake, if_neg (not_not.2 rfl)]
    · have hne : (data.take env.fwriteFw).length ≠ data.length := by
        rw [List.length_take]
        omega
      refine .inr ⟨_, if_pos hne, rfl, fun _ => ?_, fun _ => Nat.not_le.1 hlen⟩
      simp [Component.same_setFile]

/-- **The outcomes of a `TransferData` request.** -/
theorem transferData0x36_cases (env : Env) (hs : s.srv.rcrrp = false) :
    (s.srv.xferIsActive = false ∧
        transferData0x36 env s = s.negativeResponse kUploadDownloadNotAccepted) ∨
      (s.srv.xferIsActive = true ∧ (∀ path, ¬BlockAccepted env s path) ∧
        BlockRefused s (transferData0x36 env s).1 (transferData0x36 env s).2) ∨
      ∃ path, BlockAccepted env s path ∧
        transferData0x36 env s = (kPositiveResponse, s.acceptBlock path) := by
  unfold transferData0x36
  simp only [hs, Bool.not_false, Bool.true_and, Bool.false_eq_true, if_false, decide_eq_true_eq]
  split_ifs with hactive hlen hseq htotal
  · exact .inl ⟨by simpa using hactive, rfl⟩
  · exact .inr (.inl ⟨by simpa using hactive, fun _ h => Nat.not_lt.2 h.two_le hlen,
      blockRefused_transferDataFail (by simp) (by simp) rfl fun _ => .refl _ _⟩)
  · exact .inr (.inl ⟨by simpa using hactive, fun _ h => hseq h.counter,
      blockRefused_transferDataFail (by simp) (by simp) rfl fun _ => .refl _ _⟩)
  · exact .inr (.inl ⟨by simpa using hactive, fun _ h => Nat.not_lt.2 h.admitted htotal,
      blockRefused_transferDataFail (by simp) (by simp) rfl fun _ => by
        simp [Component.same_nextBlock]⟩)
  · have hactive' : s.srv.xferIsActive = true := by simpa using hactive
    set u := (s.nextBlock.setSend [responseSidOf kSIDTransferData, s.srv.r.recvBuf 1]).emitEvent
      (.transferData s.blockData) with hu
    have hdata : s.nextBlock.srv.r.recvSlice 2 (subSize16 s.srv.r.recvLen 2) = s.blockData := rfl
    have hopened : u.app.fwFile = s.app.fwFile := rfl
    rw [hdata, ← hu]
    rcases handleTransferData_cases env u s.blockData with
      ⟨path, hfile, hwritten, heq⟩ | ⟨v, heq, hsrv, hlog, hshort⟩
    · refine .inr (.inr ⟨path, ⟨hactive', Nat.not_lt.1 hlen, not_not.1 hseq, Nat.not_lt.1 htotal,
        hfile, hwritten⟩, ?_⟩)
      rw [heq]
      rfl
    · refine .inr (.inl ⟨hactive', fun path h => ?_, ?_⟩)
      · have hlt := hshort (by simp [hopened, h.opened])
        exact Nat.not_lt.2 h.written hlt
      · rw [heq]
        exact blockRefused_transferDataFail (by simp) (by simp) (by rw [hsrv]; rfl) fun hne =>
          .trans (by simp [hu, Component.same_nextBlock]) (hlog hne)

/-- **A block that meets the conditions is accepted.** -/
theorem transferData0x36_accept (hs : s.srv.rcrrp = false) {path : Path}
    (h : BlockAccepted env s path) :
    transferData0x36 env s = (kPositiveResponse, s.acceptBlock path) := by
  rcases transferData0x36_cases env hs with ⟨hinactive, -⟩ | ⟨-, hno, -⟩ | ⟨path', h', heq⟩
  · simp [h.active] at hinactive
  · exact absurd h (hno path)
  · obtain rfl : path = path' := Option.some.inj (h.opened.symm.trans h'.opened)
    exact heq

/-- A block with another counter than the expected one is refused, and the transfer is reset. -/
theorem transferData0x36_sequenceError (hs : s.srv.rcrrp = false)
    (hactive : s.srv.xferIsActive = true) (hlen : 2 ≤ s.srv.r.recvLen)
    (hseq : s.srv.r.recvBuf 1 ≠ s.srv.xferBlockSequenceCounter) :
    transferData0x36 env s = transferDataFail s kRequestSequenceError := by
  unfold transferData0x36
  simp [hactive, hs, hseq, Nat.not_lt.2 hlen]

/-- A block is appended to no other file than that of the stream. -/
theorem transferData0x36_file {path : Path} (h : s.app.fwFile ≠ some path) :
    (Component.file path).Same s (transferData0x36 env s).2 := by
  have hdata (u : Sys) (hfile : u.app.fwFile = s.app.fwFile)
      (hsame : (Component.file path).Same s u) (data : Bytes) :
      (Component.file path).Same s (handleTransferData env u data).2 := by
    unfold handleTransferData
    cases hstream : u.app.fwFile with
    | none => exact hsame
    | some p =>
      have hne : Component.file path ≠ .file p := by
        rintro ⟨⟩
        exact h (hfile.symm.trans hstream)
      dsimp only
      split_ifs <;> simpa [Component.same_setFile _ hne] using hsame
  have hblock (bs data data' : Bytes) : (Component.file path).Same s (handleTransferData env
      ((s.setSend bs).emitEvent (.transferData data)) data').2 :=
    hdata ((s.setSend bs).emitEvent (.transferData data)) rfl (by simp) _
  have hnext (bs data data' : Bytes) : (Component.file path).Same s (handleTransferData env
      ((s.nextBlock.setSend bs).emitEvent (.transferData data)) data').2 :=
    hdata ((s.nextBlock.setSend bs).emitEvent (.transferData data)) rfl
      (by simp [Component.same_nextBlock]) _
  unfold transferData0x36 transferDataFail
  dsimp only
  split_ifs
  · simp
  · simp [Component.same_resetTransfer]
  · simp [Component.same_resetTransfer]
  · simp [Component.same_resetTransfer]
  · split <;> simp [Component.same_resetTransfer, Component.same_countBytes, hblock]
  · simp [Component.same_resetTransfer, Component.same_nextBlock]
  · split <;> simp [Component.same_resetTransfer, Component.same_countBytes, hnext]

/-! ### RequestTransferExit -/

/-- What is left of the state when a transfer has been closed. -/
def Sys.closeTransfer (s : Sys) (path : Path) : Sys :=
  (((((s.setSend [responseSidOf kSIDRequestTransferExit]).emitEvent (.requestTransferExit
    (s.srv.r.recvSlice 1 (subSize16 s.srv.r.recvLen 1)))).emit (.fclose path)).setFwFile
      none).emit (.system (ascii ['s', 'y', 'n', 'c']))).resetTransfer

theorem handleRequestTransferExit_none (h : s.app.fwFile = none) :
    handleRequestTransferExit s = .error .fcloseNull := by
  rw [handleRequestTransferExit, h]

theorem handleRequestTransferExit_some {path : Path} (h : s.app.fwFile = some path) :
    handleRequestTransferExit s = .ok (kPositiveResponse,
      ((s.emit (.fclose path)).setFwFile none).emit (.system (ascii ['s', 'y', 'n', 'c']))) := by
  rw [handleRequestTransferExit, h]

/-- **The outcomes of a `RequestTransferExit` request.** -/
theorem requestTransferExit0x37_cases (s : Sys) :
    (s.srv.xferIsActive = false ∧
        requestTransferExit0x37 s = .ok (s.negativeResponse kUploadDownloadNotAccepted)) ∨
      (s.srv.xferIsActive = true ∧ s.app.fwFile = none ∧
        requestTransferExit0x37 s = .error .fcloseNull) ∨
      ∃ path, s.srv.xferIsActive = true ∧ s.app.fwFile = some path ∧
        requestTransferExit0x37 s = .ok (kPositiveResponse, s.closeTransfer path) := by
  unfold requestTransferExit0x37
  dsimp only
  split_ifs with hactive
  · exact .inl ⟨by simpa using hactive, rfl⟩
  · have hactive' : s.srv.xferIsActive = true := by simpa using hactive
    cases hfile : s.app.fwFile with
    | none =>
      refine .inr (.inl ⟨hactive', rfl, ?_⟩)
      rw [handleRequestTransferExit_none]
      exact hfile
    | some path =>
      refine .inr (.inr ⟨path, hactive', rfl, ?_⟩)
      rw [handleRequestTransferExit_some]
      · rfl
      · exact hfile

/-! ### The faults of the routines -/

/-- The fault is one of `calcFileChecksum`. -/
def Fault.OfChecksum : Fault → Prop
  | .terminate _ | .fcloseNull => False
  | _ => True

theorem checksumLoop_fault {text : Bytes} {i : ℕ} {checksum : Bytes} {e : Fault}
    (h : checksumLoop text i checksum = .error e) : e.OfChecksum := by
  have hstore {v : Option UInt8} {i : ℕ} {checksum : Bytes} {e : Fault}
      (h : checksumLoop.storeByte v i checksum = .error e) : e.OfChecksum := by
    unfold checksumLoop.storeByte at h
    split at h
    · cases h
      trivial
    · split_ifs at h
      cases h
      trivial
  fun_induction checksumLoop text i checksum with
  | case1 => cases h
  | case2 => exact hstore h
  | case3 a b rest i checksum ih =>
    cases hbyte : checksumLoop.storeByte (stoi16 [a, b]) i checksum with
    | error e' =>
      rw [hbyte] at h
      cases h
      exact hstore hbyte
    | ok checksum' =>
      rw [hbyte] at h
      exact ih checksum' h

theorem calcFileChecksum_fault {text : Option Bytes} {checksum : Bytes} {e : Fault}
    (h : calcFileChecksum text checksum = .error e) : e.OfChecksum := by
  unfold calcFileChecksum at h
  split at h
  · cases h
    trivial
  · split_ifs at h
    · exact checksumLoop_fault h
    · cases h
      trivial

theorem handleRoutineCtrl_fault {ctrlType : UInt8} {id : UInt16} {optionRecord : Bytes} {e : Fault}
    (h : handleRoutineCtrl B env s ctrlType id optionRecord = .error e) :
    e.OfChecksum ∨ id = 0xFF02 ∧ ctrlType = kStartRoutine ∧
      e = .terminate [.startUpgradeThread] := by
  unfold handleRoutineCtrl at h
  dsimp only at h
  split_ifs at h with _ _ _ _ _ hid htype
  · split at h
    · next e' hsum =>
      cases h
      exact .inl (calcFileChecksum_fault hsum)
    · cases h
  · split at h
    · next e' hreq =>
      cases h
      unfold requestUpgradeFw at hreq
      dsimp only at hreq
      split_ifs at hreq
      cases hreq
      exact .inr ⟨hid, htype, rfl⟩
    · cases h

/-- **The faults of a routine** are those of `calcFileChecksum` and the end of the process by a
start of the upgrade. -/
theorem routineControl0x31_fault {e : Fault} (h : routineControl0x31 B env s = .error e) :
    e.OfChecksum ∨ s.StartsUpgrade ∧ e = .terminate [.startUpgradeThread] := by
  unfold routineControl0x31 at h
  dsimp only at h
  split_ifs at h with hlen
  split at h
  · next e' hroutine =>
    cases h
    rcases handleRoutineCtrl_fault hroutine with hsum | ⟨hid, htype, rfl⟩
    · exact .inl hsum
    · exact .inr ⟨⟨Nat.not_lt.1 hlen, htype, hid⟩, rfl⟩
  · split_ifs at h

/-- No routine closes the stream of a transfer. -/
theorem routineControl0x31_ne_fcloseNull (s : Sys) :
    routineControl0x31 B env s ≠ .error .fcloseNull := fun h =>
  (routineControl0x31_fault h).elim id fun hterminate => nomatch hterminate.2

/-! ### RequestFileTransfer -/

/-- The name under which a file is stored. -/
def Build.fwFilename (B : Build) (args : FileTransferArgs) : Bytes :=
  B.dataPath ++ [0x2F] ++ eraseDirs args.filePath

/-- What is left of the state when a transfer has been opened. -/
def Sys.openTransfer (s : Sys) (B : Build) (args : FileTransferArgs) : Sys :=
  let path := cStr (B.fwFilename args)
  ((((((s.emitEvent (.requestFileTransfer args)).setFwFilename (B.fwFilename args)).emit
    (.fopen path)).setFile path (some [])).setFwFile (some path)).startTransfer
      args.fileSizeCompressed B.udsTpMtu.toNat).setSend
        ([responseSidOf kSIDRequestFileTransfer, args.modeOfOperation, 2] ++
          toBytes 2 B.udsTpMtu.toNat ++ [args.dataFormatIdentifier])

/-- What is left of the state when the file of a transfer could not be opened. -/
def Sys.failToOpen (s : Sys) (B : Build) (args : FileTransferArgs) : Sys :=
  ((((s.emitEvent (.requestFileTransfer args)).setFwFilename (B.fwFilename args)).emit
    (.fopen (cStr (B.fwFilename args)))).setFwFile none)

/-- The reason for which a `RequestFileTransfer` request is refused before its handler is called,
if there is one. -/
def Sys.fileTransferRefusal (s : Sys) : Option ResponseCode :=
  if s.srv.xferIsActive then some kConditionsNotCorrect
  else if s.srv.r.recvLen < 4 then some kIncorrectMessageLengthOrInvalidFormat
  else match fileTransferArgs.run s.srv.r.recvBuf with
  | .error err => some err
  | .ok _ => none

theorem fileTransferArgs_run_error {buf : ℕ → UInt8} {err : ResponseCode}
    (h : fileTransferArgs.run buf = .error err) : err = kRequestOutOfRange := by
  unfold fileTransferArgs at h
  simp only [Reads.run_bind, apply_ite (Reads.run buf), Reads.run_pure] at h
  split_ifs at h
  exact (Except.error.inj h).symm

/-- The outcomes of creating the file of a transfer. -/
theorem handleRequestFileTransfer_eq (s : Sys) (args : FileTransferArgs) :
    handleRequestFileTransfer B env s args =
      let path := cStr (B.fwFilename args)
      let u := (s.setFwFilename (B.fwFilename args)).emit (.fopen path)
      if env.fopenFw then
        (kPositiveResponse, (u.setFile path (some [])).setFwFile (some path), B.udsTpMtu)
      else (kUploadDownloadNotAccepted, u.setFwFile none, 0) := by
  unfold handleRequestFileTransfer
  cases env.fopenFw <;> rfl

/-- **The outcomes of a `RequestFileTransfer` request.** -/
theorem requestFileTransfer0x38_cases (B : Build) (env : Env) (s : Sys) :
    (∃ err, s.fileTransferRefusal = some err ∧ err ≠ kPositiveResponse ∧
        requestFileTransfer0x38 B env s = s.negativeResponse err) ∨
      ∃ args, s.srv.xferIsActive = false ∧ 4 ≤ s.srv.r.recvLen ∧
        fileTransferArgs.run s.srv.r.recvBuf = .ok args ∧
        requestFileTransfer0x38 B env s =
          if env.fopenFw then (kPositiveResponse, s.openTransfer B args)
          else (s.failToOpen B args).negativeResponse kUploadDownloadNotAccepted := by
  unfold requestFileTransfer0x38 Sys.fileTransferRefusal
  by_cases hactive : s.srv.xferIsActive
  · exact .inl ⟨_, if_pos hactive, by simp, if_pos hactive⟩
  rw [if_neg hactive, if_neg hactive]
  by_cases hlen : s.srv.r.recvLen < 4
  · exact .inl ⟨_, if_pos hlen, by simp, if_pos hlen⟩
  rw [if_neg hlen, if_neg hlen]
  cases hargs : fileTransferArgs.run s.srv.r.recvBuf with
  | error err =>
    have herr : err = kRequestOutOfRange := fileTransferArgs_run_error hargs
    exact .inl ⟨err, rfl, by simp [herr], rfl⟩
  | ok args =>
    refine .inr ⟨args, by simpa using hactive, Nat.not_lt.1 hlen, rfl, ?_⟩
    dsimp only
    rw [handleRequestFileTransfer_eq]
    cases env.fopenFw with
    | false => rfl
    | true =>
      have hpositive : ¬kPositiveResponse ≠ kPositiveResponse := not_not.2 rfl
      have hmin : min B.udsTpMtu B.udsTpMtu = B.udsTpMtu := ite_self _
      simp only [if_true, if_neg hpositive, hmin]
      rfl

/-- A transfer creates no other file than the one it names. -/
theorem requestFileTransfer0x38_file {path : Path}
    (h : ∀ args, cStr (B.fwFilename args) ≠ path) :
    (Component.file path).Same s (requestFileTransfer0x38 B env s).2 := by
  rcases requestFileTransfer0x38_cases B env s with ⟨err, -, -, heq⟩ | ⟨args, -, -, -, heq⟩
  · rw [heq, Component.same_negativeResponse]
    exact .refl _ s
  · have hne : Component.file path ≠ .file (cStr (B.fwFilename args)) := by
      rintro ⟨⟩
      exact h args rfl
    rw [heq]
    split_ifs
    · simp [Sys.openTransfer, Component.same_startTransfer, Component.same_setFwFile,
        Component.same_setFile _ hne, Component.same_setFwFilename]
    · simp [Sys.failToOpen, Component.same_setFwFile, Component.same_setFwFilename]

variable {q : Request}

/-- A `RequestFileTransfer` whose fields are refused. -/
theorem processRequest_fileTransfer_error (hs : Settings s)
    (hq : getServiceForSID (q.buf 0) = some .requestFileTransfer)
    (hinactive : s.srv.xferIsActive = false) (hlen : 4 ≤ q.len) {err : ResponseCode}
    (hrun : fileTransferArgs.run q.buf = .error err) :
    processRequest B env s q = .ok ((s.receive B env q).negativeResponse err) := by
  have hactive : ¬(s.receive B env q).srv.xferIsActive = true := by
    simpa [Sys.receive] using hinactive
  rw [processRequest_eq_call hs hq rfl]
  refine congrArg Except.ok ?_
  unfold requestFileTransfer0x38
  rw [if_neg hactive, receive_recvLen, if_neg (Nat.not_lt.2 hlen), receive_recvBuf, hrun]

/-- A `RequestFileTransfer` that reaches its handler. -/
theorem processRequest_fileTransfer_ok (hs : Settings s)
    (hq : getServiceForSID (q.buf 0) = some .requestFileTransfer)
    (hinactive : s.srv.xferIsActive = false) (hlen : 4 ≤ q.len) {args : FileTransferArgs}
    (hrun : fileTransferArgs.run q.buf = .ok args) :
    processRequest B env s q = .ok (if env.fopenFw then
        (kPositiveResponse, (s.receive B env q).openTransfer B args)
      else
        ((s.receive B env q).failToOpen B args).negativeResponse kUploadDownloadNotAccepted) := by
  have hactive : ¬(s.receive B env q).srv.xferIsActive = true := by
    simpa [Sys.receive] using hinactive
  rw [processRequest_eq_call hs hq rfl]
  refine congrArg Except.ok ?_
  rcases requestFileTransfer0x38_cases B env (s.receive B env q) with
    ⟨err, hrefusal, -⟩ | ⟨args', -, -, hrun', heq⟩
  · unfold Sys.fileTransferRefusal at hrefusal
    rw [if_neg hactive, receive_recvLen, if_neg (Nat.not_lt.2 hlen), receive_recvBuf, hrun]
      at hrefusal
    cases hrefusal
  · obtain rfl : args' = args := Except.ok.inj (hrun'.symm.trans hrun)
    exact heq

/-! ### Exchanges of other services -/

variable {x : Exchange}

/-- An exchange of another service leaves a file as it is. -/
theorem ServerStep.file_of_services (h : ServerStep B s x t) {path : Path}
    (hwrite : x.service = some .writeDataByIdentifier → path ≠ B.didFile)
    (hdata : x.service ≠ some .transferData) (hfile : x.service ≠ some .requestFileTransfer) :
    (Component.file path).Same s t := by
  refine h.same (by simp) (by simp) fun service hservice htouches => ?_
  cases service <;> simp [UDSService.Touches] at htouches
  · exact hwrite hservice htouches
  · exact hdata hservice
  · exact hfile hservice

/-- An exchange of another service leaves the stream of the firmware file as it is. -/
theorem ServerStep.fwFile_of_services (h : ServerStep B s x t)
    (hexit : x.service ≠ some .requestTransferExit)
    (hfile : x.service ≠ some .requestFileTransfer) : Component.fwFile.Same s t := by
  refine h.same (by simp) (by simp) fun service hservice htouches => ?_
  cases service <;> simp [UDSService.Touches] at htouches
  · exact hexit hservice
  · exact hfile hservice

end EcuUpgrade
