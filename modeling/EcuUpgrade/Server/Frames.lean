import EcuUpgrade.Server.Services

/-!
# What a service leaves unchanged

The state of the process is divided into components, such that every elementary step assigns to
one of them. `UDSService.Touches` names the components a service may change; all others are the
same before and after its call.

## Main definitions

* `Component`, `Component.Same`: the components and their equality in two states.
* `UDSService.Touches`: the components a service may change.

## Main results

* `UDSService.call_same`: a service changes nothing but what it touches.
* `evaluateServiceResponse_same`: neither does an evaluation.
-/

namespace EcuUpgrade

open ResponseCode

/-- The components of the process. The send buffer belongs to none of them, and of the effects
only the report of a missing firmware stream is one. -/
inductive Component
  | settings
  | request
  | session
  | s3Timer
  | reset
  | authFailTimer
  | securityLevel
  | seed
  | transfer
  | fwFilename
  | fwFile
  | upgrading
  | upgradeThread
  | file (path : Path)
  | notOpened
  deriving DecidableEq

/-- The component is the same in two states. -/
def Component.Same (s t : Sys) : Component → Prop
  | settings =>
    t.srv.p2Ms = s.srv.p2Ms ∧ t.srv.p2StarMs = s.srv.p2StarMs ∧ t.srv.s3Ms = s.srv.s3Ms ∧
      t.srv.p2Timer = s.srv.p2Timer ∧
      t.srv.secAccessBootDelayTimer = s.srv.secAccessBootDelayTimer ∧
      t.srv.rcrrp = s.srv.rcrrp ∧ t.srv.requestInProgress = s.srv.requestInProgress ∧
      t.srv.r.taType = s.srv.r.taType
  | request =>
    t.srv.r.recvBuf = s.srv.r.recvBuf ∧ t.srv.r.recvLen = s.srv.r.recvLen ∧
      t.srv.r.sendBufSize = s.srv.r.sendBufSize
  | session => t.srv.sessionType = s.srv.sessionType
  | s3Timer => t.srv.s3SessionTimeoutTimer = s.srv.s3SessionTimeoutTimer
  | reset =>
    t.srv.notReadyToReceive = s.srv.notReadyToReceive ∧
      t.srv.ecuResetScheduled = s.srv.ecuResetScheduled ∧
      t.srv.ecuResetTimer = s.srv.ecuResetTimer
  | authFailTimer => t.srv.secAccessAuthFailTimer = s.srv.secAccessAuthFailTimer
  | securityLevel => t.srv.securityLevel = s.srv.securityLevel
  | seed => t.app.seed = s.app.seed
  | transfer =>
    t.srv.xferIsActive = s.srv.xferIsActive ∧
      t.srv.xferBlockSequenceCounter = s.srv.xferBlockSequenceCounter ∧
      t.srv.xferTotalBytes = s.srv.xferTotalBytes ∧
      t.srv.xferByteCounter = s.srv.xferByteCounter ∧
      t.srv.xferBlockLength = s.srv.xferBlockLength
  | fwFilename => t.app.fwFilename = s.app.fwFilename
  | fwFile => t.app.fwFile = s.app.fwFile
  | upgrading => t.app.upgrading = s.app.upgrading
  | upgradeThread => t.app.upgradeThread = s.app.upgradeThread
  | file path => t.fs path = s.fs path
  | notOpened => Effect.fileNotOpened ∈ t.log ↔ Effect.fileNotOpened ∈ s.log

namespace Component

variable {k : Component} {s t u : Sys}

@[simp] theorem Same.refl (k : Component) (s : Sys) : k.Same s s := by
  cases k <;> simp [Same]

theorem Same.trans (h : k.Same s t) (h' : k.Same t u) : k.Same s u := by
  cases k <;> simp_all [Same]

theorem Same.symm (h : k.Same s t) : k.Same t s := by
  cases k <;> simp_all [Same]

theorem Same.congr_right (h : k.Same t u) : k.Same s u ↔ k.Same s t := by
  refine ⟨fun hu => ?_, fun ht => ht.trans h⟩
  cases k <;> simp_all [Same]

/-! ### Elementary steps -/

@[simp] theorem same_setSend (bs : Bytes) : k.Same s (t.setSend bs) ↔ k.Same s t := by
  cases k <;> exact Iff.rfl

@[simp] theorem same_noResponse : k.Same s t.noResponse ↔ k.Same s t :=
  same_setSend []

@[simp] theorem same_negativeResponse (code : ResponseCode) :
    k.Same s (t.negativeResponse code).2 ↔ k.Same s t :=
  same_setSend _

@[simp] theorem same_safeCopy (src : Bytes) : k.Same s (t.safeCopy src).2 ↔ k.Same s t := by
  unfold Sys.safeCopy
  split_ifs
  · exact same_setSend _
  · exact Iff.rfl

theorem same_emit {e : Effect} (h : k ≠ .notOpened ∨ e ≠ .fileNotOpened) :
    k.Same s (t.emit e) ↔ k.Same s t := by
  cases k with
  | notOpened =>
    have he : Effect.fileNotOpened ≠ e := fun heq => h.elim (fun hk => hk rfl) fun he => he heq.symm
    simp [Same, Sys.emit, he]
  | _ => exact Iff.rfl

@[simp] theorem same_emitEvent (ev : UDSServerEvent) : k.Same s (t.emitEvent ev) ↔ k.Same s t :=
  same_emit (.inr (by simp))

@[simp] theorem same_emit_of_ne {e : Effect} (h : e ≠ .fileNotOpened) :
    k.Same s (t.emit e) ↔ k.Same s t :=
  same_emit (.inr h)

theorem same_setFile {path : Path} (c : Option Bytes) (h : k ≠ .file path) :
    k.Same s (t.setFile path c) ↔ k.Same s t := by
  cases k with
  | file p =>
    have hp : p ≠ path := fun heq => h (by rw [heq])
    simp [Same, Sys.setFile, hp]
  | _ => exact Iff.rfl

theorem same_setSession (h : k ≠ .session) (sessType : UInt8) :
    k.Same s (t.setSession sessType) ↔ k.Same s t := by
  cases k <;> first | exact absurd rfl h | exact Iff.rfl

theorem same_restartS3 (h : k ≠ .s3Timer) (now : UInt32) :
    k.Same s (t.restartS3 now) ↔ k.Same s t := by
  cases k <;> first | exact absurd rfl h | exact Iff.rfl

theorem same_scheduleReset (h : k ≠ .reset) (resetType : UInt8) (timer : UInt32) :
    k.Same s (t.scheduleReset resetType timer) ↔ k.Same s t := by
  cases k <;> first | exact absurd rfl h | exact Iff.rfl

theorem same_setAuthFailTimer (h : k ≠ .authFailTimer) (timer : UInt32) :
    k.Same s (t.setAuthFailTimer timer) ↔ k.Same s t := by
  cases k <;> first | exact absurd rfl h | exact Iff.rfl

theorem same_setSecurityLevel (h : k ≠ .securityLevel) (level : UInt8) :
    k.Same s (t.setSecurityLevel level) ↔ k.Same s t := by
  cases k <;> first | exact absurd rfl h | exact Iff.rfl

theorem same_setSeed (h : k ≠ .seed) (seed : UInt32) :
    k.Same s (t.setSeed seed) ↔ k.Same s t := by
  cases k <;> first | exact absurd rfl h | exact Iff.rfl

theorem same_resetTransfer (h : k ≠ .transfer) : k.Same s t.resetTransfer ↔ k.Same s t := by
  cases k <;> first | exact absurd rfl h | exact Iff.rfl

theorem same_startTransfer (h : k ≠ .transfer) (total blockLength : ℕ) :
    k.Same s (t.startTransfer total blockLength) ↔ k.Same s t := by
  cases k <;> first | exact absurd rfl h | exact Iff.rfl

theorem same_nextBlock (h : k ≠ .transfer) : k.Same s t.nextBlock ↔ k.Same s t := by
  cases k <;> first | exact absurd rfl h | exact Iff.rfl

theorem same_countBytes (h : k ≠ .transfer) (n : ℕ) :
    k.Same s (t.countBytes n) ↔ k.Same s t := by
  cases k <;> first | exact absurd rfl h | exact Iff.rfl

theorem same_setFwFilename (h : k ≠ .fwFilename) (name : Bytes) :
    k.Same s (t.setFwFilename name) ↔ k.Same s t := by
  cases k <;> first | exact absurd rfl h | exact Iff.rfl

theorem same_setFwFile (h : k ≠ .fwFile) (file : Option Path) :
    k.Same s (t.setFwFile file) ↔ k.Same s t := by
  cases k <;> first | exact absurd rfl h | exact Iff.rfl

theorem same_setUpgrading (h : k ≠ .upgrading) (b : Bool) :
    k.Same s (t.setUpgrading b) ↔ k.Same s t := by
  cases k <;> first | exact absurd rfl h | exact Iff.rfl

theorem same_setUpgradeThread (h : k ≠ .upgradeThread) :
    k.Same s t.setUpgradeThread ↔ k.Same s t := by
  cases k <;> first | exact absurd rfl h | exact Iff.rfl

end Component

/-! ### Services -/

variable {B : Build} {env : Env} {s : Sys} {k : Component}

theorem diagnosticSessionControl0x10_same (h : k ≠ .session) (h' : k ≠ .s3Timer) :
    k.Same s (diagnosticSessionControl0x10 env s).2 := by
  unfold diagnosticSessionControl0x10
  dsimp only [handleDiagSessCtrl]
  split_ifs <;> simp [Component.same_setSession h, Component.same_restartS3 h']

theorem ecuReset0x11_same (h : k ≠ .reset) : k.Same s (ecuReset0x11 env s).2 := by
  unfold ecuReset0x11
  dsimp only [handleEcuReset]
  split_ifs <;> simp [Component.same_scheduleReset h]

theorem handleReadDataByIdent_same (dataId : UInt16) :
    k.Same s (handleReadDataByIdent B env s dataId).2 := by
  unfold handleReadDataByIdent
  dsimp only
  split_ifs <;> simp

theorem readDataLoop_same (n did : ℕ) : k.Same s (readDataLoop B env n did s).2 := by
  induction n generalizing s did with
  | zero => exact .refl k s
  | succ n ih =>
    unfold readDataLoop
    dsimp only
    split_ifs
    · simp
    · rw [Component.same_negativeResponse]
      exact .trans (by simp) (handleReadDataByIdent_same _)
    · exact .trans (.trans (by simp) (handleReadDataByIdent_same _)) (ih _)

theorem readDataByIdentifier0x22_same : k.Same s (readDataByIdentifier0x22 B env s).2 := by
  unfold readDataByIdentifier0x22
  dsimp only
  split_ifs
  · simp
  · simp
  · exact .trans (by simp) (readDataLoop_same _ _)

theorem readMemoryByAddress0x23_same : k.Same s (readMemoryByAddress0x23 s).2 := by
  unfold readMemoryByAddress0x23
  split_ifs
  · simp
  · split
    · simp
    · dsimp only
      split_ifs <;> simp

theorem sendKey0x27_same (h : k ≠ .authFailTimer) (h' : k ≠ .securityLevel)
    (subFunction : UInt8) (record : Bytes) :
    k.Same s (sendKey0x27 env s subFunction record).2 := by
  unfold sendKey0x27
  dsimp only
  split_ifs <;> simp [Component.same_setAuthFailTimer h, Component.same_setSecurityLevel h']

theorem handleRequestSeed_same (h : k ≠ .seed) : k.Same s (handleRequestSeed env s).2 := by
  unfold handleRequestSeed
  split <;> simp [Component.same_setSeed h]

theorem requestSeed0x27_same (h : k ≠ .seed) (subFunction : UInt8) (record : Bytes) :
    k.Same s (requestSeed0x27 env s subFunction record).2 := by
  have hseed : k.Same s (handleRequestSeed env
      (s.emitEvent (.secAccessRequestSeed subFunction record))).2 :=
    .trans (by simp) (handleRequestSeed_same h)
  unfold requestSeed0x27
  dsimp only
  split_ifs <;> simp [hseed]

theorem securityAccess0x27_same (h₁ : k ≠ .authFailTimer) (h₂ : k ≠ .securityLevel)
    (h₃ : k ≠ .seed) : k.Same s (securityAccess0x27 env s).2 := by
  unfold securityAccess0x27
  dsimp only
  split_ifs
  · simp
  · simp
  · simp
  · exact .trans (by simp) (sendKey0x27_same h₁ h₂ _ _)
  · exact .trans (by simp) (requestSeed0x27_same h₃ _ _)

theorem communicationControl0x28_same : k.Same s (communicationControl0x28 s).2 := by
  unfold communicationControl0x28
  dsimp only [handleCommCtrl]
  split_ifs <;> simp

theorem handleWriteDataByIdent_same (h : k ≠ .file B.didFile) (dataId : UInt16) (data : Bytes) :
    k.Same s (handleWriteDataByIdent B env s dataId data).2 := by
  unfold handleWriteDataByIdent
  dsimp only
  split_ifs <;> simp [Component.same_setFile _ h]

theorem writeDataByIdentifier0x2E_same (h : k ≠ .file B.didFile) :
    k.Same s (writeDataByIdentifier0x2E B env s).2 := by
  have hwrite (dataId : UInt16) (data : Bytes) : k.Same s (handleWriteDataByIdent B env
      (s.emitEvent (.writeDataByIdent dataId data)) dataId data).2 :=
    .trans (by simp) (handleWriteDataByIdent_same h _ _)
  unfold writeDataByIdentifier0x2E
  dsimp only
  split_ifs <;> simp [hwrite]

theorem requestUpgradeFw_same (h : k ≠ .upgrading) (h' : k ≠ .upgradeThread) {result : UInt8}
    {t : Sys} (ht : requestUpgradeFw B s = .ok (result, t)) : k.Same s t := by
  unfold requestUpgradeFw at ht
  dsimp only at ht
  split_ifs at ht
  obtain ⟨-, rfl⟩ := by simpa using ht
  split <;> simp [Component.same_setUpgradeThread h', Component.same_setUpgrading h]

theorem queryUpgradeProgress_same : k.Same s (queryUpgradeProgress B s).2 := by
  unfold queryUpgradeProgress
  split <;> split_ifs <;> simp

theorem handleRoutineCtrl_same {ctrlType : UInt8} {id : UInt16} {optionRecord : Bytes}
    {c : ResponseCode} {t : Sys}
    (h : id = 0xFF02 → ctrlType = kStartRoutine → k ≠ .upgrading ∧ k ≠ .upgradeThread)
    (ht : handleRoutineCtrl B env s ctrlType id optionRecord = .ok (c, t)) : k.Same s t := by
  unfold handleRoutineCtrl at ht
  dsimp only at ht
  split_ifs at ht with _ _ _ _ _ hid htype
  · obtain ⟨-, rfl⟩ := by simpa using ht
    simp
  · obtain ⟨-, rfl⟩ := by simpa using ht
    simp
  · split at ht
    · cases ht
    · obtain ⟨-, rfl⟩ := by simpa using ht
      simp
  · obtain ⟨-, rfl⟩ := by simpa using ht
    simp
  · obtain ⟨-, rfl⟩ := by simpa using ht
    simp
  · split at ht
    · cases ht
    · next hreq =>
      obtain ⟨-, rfl⟩ := by simpa using ht
      rw [Component.same_safeCopy]
      exact requestUpgradeFw_same (h hid htype).1 (h hid htype).2 hreq
  · obtain ⟨-, rfl⟩ := by simpa using ht
    rw [Component.same_safeCopy]
    exact queryUpgradeProgress_same
  · obtain ⟨-, rfl⟩ := by simpa using ht
    simp
  · obtain ⟨-, rfl⟩ := by simpa using ht
    simp

/-- The request under evaluation starts the routine that upgrades the firmware. -/
def Sys.StartsUpgrade (s : Sys) : Prop :=
  4 ≤ s.srv.r.recvLen ∧ s.srv.r.recvBuf 1 &&& 0x7F = kStartRoutine ∧
    word16 (s.srv.r.recvBuf 2) (s.srv.r.recvBuf 3) = 0xFF02

theorem routineControl0x31_same {c : ResponseCode} {t : Sys}
    (h : s.StartsUpgrade → k ≠ .upgrading ∧ k ≠ .upgradeThread)
    (ht : routineControl0x31 B env s = .ok (c, t)) : k.Same s t := by
  unfold routineControl0x31 at ht
  dsimp only at ht
  split_ifs at ht with hlen
  · cases ht
    simp
  · split at ht
    · cases ht
    · next c' u hroutine =>
      have hsame : k.Same s u := by
        refine .trans (by simp) (handleRoutineCtrl_same ?_ hroutine)
        exact fun hid htype => h ⟨Nat.not_lt.1 hlen, htype, hid⟩
      split_ifs at ht <;> cases ht <;> simpa using hsame
  · cases ht
    simp

/-- The handlers of `RequestDownload` and `RequestUpload` refuse everything, so that neither
starts a transfer. -/
theorem requestTransfer_same (sid : UInt8) (event : ℕ → ℕ → UInt8 → UDSServerEvent)
    {handler : ResponseCode} (hh : handler ≠ kPositiveResponse) :
    k.Same s (requestTransfer B s sid event handler).2 := by
  unfold requestTransfer
  cases decodeAddressAndLength s.srv.r 2 with
  | error err => dsimp only; split_ifs <;> simp
  | ok p => dsimp only; rw [if_pos hh]; split_ifs <;> simp

theorem handleTransferData_same (h : k ≠ .notOpened) (h' : ∀ path, k ≠ .file path)
    (data : Bytes) : k.Same s (handleTransferData env s data).2 := by
  unfold handleTransferData
  split
  · simp [Component.same_emit (.inl h)]
  · dsimp only
    split_ifs <;> simp [Component.same_setFile _ (h' _)]

theorem transferData0x36_same (h₁ : k ≠ .transfer) (h₂ : k ≠ .notOpened)
    (h₃ : ∀ path, k ≠ .file path) : k.Same s (transferData0x36 env s).2 := by
  have hdata (t : Sys) (data : Bytes) : k.Same s (handleTransferData env t data).2 ↔ k.Same s t :=
    (handleTransferData_same h₂ h₃ data).congr_right
  unfold transferData0x36 transferDataFail
  dsimp only
  split_ifs
  · simp
  · simp [Component.same_resetTransfer h₁]
  · simp [Component.same_resetTransfer h₁]
  · simp [Component.same_resetTransfer h₁]
  · split <;> simp [Component.same_resetTransfer h₁, Component.same_countBytes h₁, hdata]
  · simp [Component.same_resetTransfer h₁, Component.same_nextBlock h₁]
  · split <;> simp [Component.same_resetTransfer h₁, Component.same_countBytes h₁,
      Component.same_nextBlock h₁, hdata]

theorem handleRequestTransferExit_same (h : k ≠ .fwFile) {c : ResponseCode} {t : Sys}
    (ht : handleRequestTransferExit s = .ok (c, t)) : k.Same s t := by
  unfold handleRequestTransferExit at ht
  split at ht
  · cases ht
  · cases ht
    simp [Component.same_setFwFile h]

theorem requestTransferExit0x37_same (h : k ≠ .transfer) (h' : k ≠ .fwFile) {c : ResponseCode}
    {t : Sys} (ht : requestTransferExit0x37 s = .ok (c, t)) : k.Same s t := by
  unfold requestTransferExit0x37 at ht
  dsimp only at ht
  split_ifs at ht
  · cases ht
    simp
  · split at ht
    · cases ht
    all_goals
      next hexit =>
        have hsame : k.Same s _ := .trans (by simp) (handleRequestTransferExit_same h' hexit)
        cases ht
        simpa [Component.same_resetTransfer h] using hsame

theorem handleRequestFileTransfer_same (h₁ : k ≠ .fwFilename) (h₂ : k ≠ .fwFile)
    (h₃ : ∀ path, k ≠ .file path) (args : FileTransferArgs) :
    k.Same s (handleRequestFileTransfer B env s args).2.1 := by
  unfold handleRequestFileTransfer
  dsimp only
  split_ifs <;>
    simp [Component.same_setFwFilename h₁, Component.same_setFwFile h₂,
      Component.same_setFile _ (h₃ _)]

theorem requestFileTransfer0x38_same (h₁ : k ≠ .transfer) (h₂ : k ≠ .fwFilename)
    (h₃ : k ≠ .fwFile) (h₄ : ∀ path, k ≠ .file path) :
    k.Same s (requestFileTransfer0x38 B env s).2 := by
  have hopen (args : FileTransferArgs) : k.Same s (handleRequestFileTransfer B env
      (s.emitEvent (.requestFileTransfer args)) args).2.1 :=
    .trans (by simp) (handleRequestFileTransfer_same h₂ h₃ h₄ _)
  unfold requestFileTransfer0x38
  split_ifs
  · simp
  · simp
  · split
    · simp
    · dsimp only
      split_ifs <;> simp [Component.same_startTransfer h₁, hopen]

theorem testerPresent0x3E_same (h : k ≠ .s3Timer) : k.Same s (testerPresent0x3E env s).2 := by
  unfold testerPresent0x3E
  dsimp only
  split_ifs <;> simp [Component.same_restartS3 h]

theorem controlDTCSetting0x85_same : k.Same s (controlDTCSetting0x85 s).2 := by
  unfold controlDTCSetting0x85
  dsimp only
  split_ifs <;> simp

/-! ### Evaluations -/

/-- The components that the call of a service may change. -/
def UDSService.Touches (B : Build) : UDSService → Component → Prop
  | .diagnosticSessionControl, k => k = .session ∨ k = .s3Timer
  | .ecuReset, k => k = .reset
  | .securityAccess, k => k = .authFailTimer ∨ k = .securityLevel ∨ k = .seed
  | .writeDataByIdentifier, k => k = .file B.didFile
  | .routineControl, k => k = .upgrading ∨ k = .upgradeThread
  | .transferData, k => k = .transfer ∨ k = .notOpened ∨ ∃ path, k = .file path
  | .requestTransferExit, k => k = .transfer ∨ k = .fwFile
  | .requestFileTransfer, k =>
    k = .transfer ∨ k = .fwFilename ∨ k = .fwFile ∨ ∃ path, k = .file path
  | .testerPresent, k => k = .s3Timer
  | _, _ => False

/-- The service that is the only one to touch a component. -/
def Component.owner : Component → Option UDSService
  | session => some .diagnosticSessionControl
  | reset => some .ecuReset
  | authFailTimer | securityLevel | seed => some .securityAccess
  | upgradeThread => some .routineControl
  | fwFilename => some .requestFileTransfer
  | _ => none

theorem UDSService.eq_of_touches {service owner : UDSService} (howner : k.owner = some owner)
    (h : service.Touches B k) : service = owner := by
  cases k <;> simp only [Component.owner, reduceCtorEq, Option.some.injEq] at howner <;>
    subst howner <;> cases service <;> simp_all [UDSService.Touches]

/-- **A service changes nothing but what it touches.** -/
theorem UDSService.call_same (service : UDSService) {c : ResponseCode} {t : Sys}
    (h : service.call B env s = .ok (c, t)) (hk : ¬service.Touches B k) : k.Same s t := by
  cases service <;> simp only [UDSService.Touches, not_or, not_exists] at hk <;>
    simp only [UDSService.call] at h
  case routineControl => exact routineControl0x31_same (fun _ => hk) h
  case requestTransferExit => exact requestTransferExit0x37_same hk.1 hk.2 h
  all_goals
    obtain rfl : t = _ := congrArg Prod.snd (Except.ok.inj h).symm
  case diagnosticSessionControl => exact diagnosticSessionControl0x10_same hk.1 hk.2
  case ecuReset => exact ecuReset0x11_same hk
  case readDataByIdentifier => exact readDataByIdentifier0x22_same
  case readMemoryByAddress => exact readMemoryByAddress0x23_same
  case securityAccess => exact securityAccess0x27_same hk.1 hk.2.1 hk.2.2
  case communicationControl => exact communicationControl0x28_same
  case writeDataByIdentifier => exact writeDataByIdentifier0x2E_same hk
  case requestDownload => exact requestTransfer_same _ _ (by decide)
  case requestUpload => exact requestTransfer_same _ _ (by decide)
  case transferData => exact transferData0x36_same hk.1 hk.2.1 hk.2.2
  case requestFileTransfer => exact requestFileTransfer0x38_same hk.1 hk.2.1 hk.2.2.1 hk.2.2.2
  case testerPresent => exact testerPresent0x3E_same hk
  case controlDTCSetting => exact controlDTCSetting0x85_same

/-- Whether the answer of a service with a code is not sent. -/
def UDSService.suppresses (service : UDSService) (r : UDSReq) (c : ResponseCode) : Bool :=
  (r.taType = .functional && c.functionallySilent) ||
    (service.hasSubFunction && r.recvBuf 1 &&& 0x80 ≠ 0 && c = kPositiveResponse)

/-- **An evaluation** refuses a request that has no service; otherwise it calls the service and
possibly drops its answer. -/
theorem evaluateServiceResponse_cases {c : ResponseCode} {t : Sys}
    (h : evaluateServiceResponse B env s = .ok (c, t)) :
    (getServiceForSID (s.srv.r.recvBuf 0) = none ∧
        (c, t) = s.negativeResponse kServiceNotSupported) ∨
      ∃ service u, getServiceForSID (s.srv.r.recvBuf 0) = some service ∧
        service.call B env s = .ok (c, u) ∧
        t = if service.suppresses u.srv.r c then u.noResponse else u := by
  unfold evaluateServiceResponse at h
  split at h
  · next hnone => exact .inl ⟨hnone, (Except.ok.inj h).symm⟩
  · next service hsome =>
    split at h
    · cases h
    · next c' u hcall =>
      refine .inr ⟨service, u, hsome, ?_⟩
      dsimp only at h
      unfold UDSService.suppresses
      split_ifs at h with hfun hsup <;> cases h <;> refine ⟨hcall, ?_⟩
      · rw [if_pos (Bool.or_eq_true _ _ ▸ .inl hfun)]
      · rw [if_pos (Bool.or_eq_true _ _ ▸ .inr hsup)]
      · rw [if_neg fun hor => (Bool.or_eq_true _ _ ▸ hor).elim hfun hsup]

/-- An evaluation that ends the process does so in the call of its service. -/
theorem evaluateServiceResponse_error {e : Fault}
    (h : evaluateServiceResponse B env s = .error e) :
    ∃ service, getServiceForSID (s.srv.r.recvBuf 0) = some service ∧
      service.call B env s = .error e := by
  unfold evaluateServiceResponse at h
  split at h
  · cases h
  · next service hsome =>
    split at h
    · next e' hcall =>
      cases h
      exact ⟨service, hsome, hcall⟩
    · dsimp only at h
      split_ifs at h

/-- **An evaluation changes nothing but what its service touches.** -/
theorem evaluateServiceResponse_same {c : ResponseCode} {t : Sys}
    (h : evaluateServiceResponse B env s = .ok (c, t))
    (hk : ∀ service, getServiceForSID (s.srv.r.recvBuf 0) = some service →
      ¬service.Touches B k) : k.Same s t := by
  rcases evaluateServiceResponse_cases h with ⟨-, heq⟩ | ⟨service, u, hsome, hcall, rfl⟩
  · cases heq
    simp
  · have hsame : k.Same s u := service.call_same hcall (hk service hsome)
    split_ifs <;> simpa using hsame

end EcuUpgrade
