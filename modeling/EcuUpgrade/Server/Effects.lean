import EcuUpgrade.Server.TransferServices

/-!
# What a service does

The effects of an evaluation are appended to the log of the process. `UDSService.Causes` names the
effects a service may have: the event it emits, and what the handler of this event does to files
and processes.

## Main definitions

* `Appends P s t`: the log of `t` is that of `s` with effects in `P` appended.
* `UDSService.Causes`: the effects a service may have.

## Main results

* `UDSService.call_appends`, `ServerStep.appends`: a service has no other effects.
-/

namespace EcuUpgrade

open ResponseCode

/-- Between two states, effects that satisfy `P` occurred. -/
def Appends (P : Effect → Prop) (s t : Sys) : Prop :=
  ∃ effects, t.log = s.log ++ effects ∧ ∀ e ∈ effects, P e

section Appends

variable {P Q : Effect → Prop} {s t u : Sys}

@[simp] theorem Appends.refl (P : Effect → Prop) (s : Sys) : Appends P s s :=
  ⟨[], (List.append_nil _).symm, by simp⟩

theorem Appends.trans (h : Appends P s t) (h' : Appends P t u) : Appends P s u := by
  obtain ⟨effects, hlog, hP⟩ := h
  obtain ⟨effects', hlog', hP'⟩ := h'
  refine ⟨effects ++ effects', by rw [hlog', hlog, List.append_assoc], fun e he => ?_⟩
  exact (List.mem_append.1 he).elim (hP e) (hP' e)

theorem Appends.emit (h : Appends P s t) {e : Effect} (he : P e) : Appends P s (t.emit e) :=
  h.trans ⟨[e], rfl, by simpa using he⟩

theorem Appends.mono (h : Appends P s t) (hPQ : ∀ e, P e → Q e) : Appends Q s t := by
  obtain ⟨effects, hlog, hP⟩ := h
  exact ⟨effects, hlog, fun e he => hPQ e (hP e he)⟩

/-! ### Steps without effects -/

@[simp] theorem appends_setSend (bs : Bytes) : Appends P s (t.setSend bs) ↔ Appends P s t := Iff.rfl

@[simp] theorem appends_noResponse : Appends P s t.noResponse ↔ Appends P s t := Iff.rfl

@[simp] theorem appends_negativeResponse (c : ResponseCode) :
    Appends P s (t.negativeResponse c).2 ↔ Appends P s t := Iff.rfl

@[simp] theorem appends_safeCopy (src : Bytes) :
    Appends P s (t.safeCopy src).2 ↔ Appends P s t := by
  unfold Sys.safeCopy
  split_ifs <;> exact Iff.rfl

theorem log_safeCopy (s : Sys) (src : Bytes) : (s.safeCopy src).2.log = s.log := by
  unfold Sys.safeCopy
  split_ifs <;> rfl

@[simp] theorem appends_setFile (path : Path) (c : Option Bytes) :
    Appends P s (t.setFile path c) ↔ Appends P s t := Iff.rfl

@[simp] theorem appends_setSession (sessType : UInt8) :
    Appends P s (t.setSession sessType) ↔ Appends P s t := Iff.rfl

@[simp] theorem appends_restartS3 (now : UInt32) :
    Appends P s (t.restartS3 now) ↔ Appends P s t := Iff.rfl

@[simp] theorem appends_scheduleReset (resetType : UInt8) (timer : UInt32) :
    Appends P s (t.scheduleReset resetType timer) ↔ Appends P s t := Iff.rfl

@[simp] theorem appends_setAuthFailTimer (timer : UInt32) :
    Appends P s (t.setAuthFailTimer timer) ↔ Appends P s t := Iff.rfl

@[simp] theorem appends_setSecurityLevel (level : UInt8) :
    Appends P s (t.setSecurityLevel level) ↔ Appends P s t := Iff.rfl

@[simp] theorem appends_setSeed (seed : UInt32) :
    Appends P s (t.setSeed seed) ↔ Appends P s t := Iff.rfl

@[simp] theorem appends_resetTransfer : Appends P s t.resetTransfer ↔ Appends P s t := Iff.rfl

@[simp] theorem appends_startTransfer (total blockLength : ℕ) :
    Appends P s (t.startTransfer total blockLength) ↔ Appends P s t := Iff.rfl

@[simp] theorem appends_nextBlock : Appends P s t.nextBlock ↔ Appends P s t := Iff.rfl

@[simp] theorem appends_countBytes (n : ℕ) : Appends P s (t.countBytes n) ↔ Appends P s t :=
  Iff.rfl

@[simp] theorem appends_setFwFilename (name : Bytes) :
    Appends P s (t.setFwFilename name) ↔ Appends P s t := Iff.rfl

@[simp] theorem appends_setFwFile (file : Option Path) :
    Appends P s (t.setFwFile file) ↔ Appends P s t := Iff.rfl

@[simp] theorem appends_setUpgrading (b : Bool) :
    Appends P s (t.setUpgrading b) ↔ Appends P s t := Iff.rfl

@[simp] theorem appends_setUpgradeThread : Appends P s t.setUpgradeThread ↔ Appends P s t := Iff.rfl

end Appends

/-- The effects that a service may have. -/
def UDSService.Causes (B : Build) : UDSService → Effect → Prop
  | .diagnosticSessionControl, e => ∃ type, e = .emit (.diagSessCtrl type)
  | .ecuReset, e => ∃ type, e = .emit (.ecuReset type)
  | .readDataByIdentifier, e => ∃ id, e = .emit (.readDataByIdent id)
  | .readMemoryByAddress, e => ∃ addr size, e = .emit (.readMemByAddr addr size)
  | .securityAccess, e => (∃ level record, e = .emit (.secAccessRequestSeed level record)) ∨
      ∃ level key, e = .emit (.secAccessValidateKey level key)
  | .communicationControl, e => ∃ ctrlType commType, e = .emit (.commCtrl ctrlType commType)
  | .writeDataByIdentifier, e => (∃ id data, e = .emit (.writeDataByIdent id data)) ∨
      e = .mkdir B.didPath ∨ e = .fopen B.didFile ∨ (∃ data, e = .fwrite B.didFile data) ∨
      e = .fclose B.didFile ∨ e = .remove B.didFile
  | .routineControl, e => (∃ type id record, e = .emit (.routineCtrl type id record)) ∨
      (∃ cmd, e = .popen cmd) ∨ (∃ cmd, e = .system cmd) ∨ e = .startUpgradeThread
  | .requestDownload, e => ∃ addr size format, e = .emit (.requestDownload addr size format)
  | .requestUpload, e => ∃ addr size format, e = .emit (.requestUpload addr size format)
  | .transferData, e => (∃ data, e = .emit (.transferData data)) ∨ e = .fileNotOpened ∨
      ∃ path data, e = .fwrite path data
  | .requestTransferExit, e => (∃ data, e = .emit (.requestTransferExit data)) ∨
      (∃ path, e = .fclose path) ∨ ∃ cmd, e = .system cmd
  | .requestFileTransfer, e => (∃ args, e = .emit (.requestFileTransfer args)) ∨
      ∃ path, e = .fopen path
  | .testerPresent, _ => False
  | .controlDTCSetting, _ => False

variable {B : Build} {env : Env} {s t : Sys} {c : ResponseCode} {P : Effect → Prop}

/-! ### Services -/

theorem diagnosticSessionControl0x10_appends
    (h : ∀ type, P (.emit (.diagSessCtrl type))) :
    Appends P s (diagnosticSessionControl0x10 env s).2 := by
  have hemit (type : UInt8) : Appends P s (s.emitEvent (.diagSessCtrl type)) :=
    (Appends.refl P s).emit (h type)
  unfold diagnosticSessionControl0x10
  dsimp only [handleDiagSessCtrl]
  split_ifs <;> simp [hemit]

theorem ecuReset0x11_appends (h : ∀ type, P (.emit (.ecuReset type))) :
    Appends P s (ecuReset0x11 env s).2 := by
  have hemit (type : UInt8) : Appends P s (s.emitEvent (.ecuReset type)) :=
    (Appends.refl P s).emit (h type)
  unfold ecuReset0x11
  dsimp only [handleEcuReset]
  split_ifs <;> simp [hemit]

theorem handleReadDataByIdent_appends (dataId : UInt16) :
    Appends P s (handleReadDataByIdent B env s dataId).2 := by
  unfold handleReadDataByIdent
  dsimp only
  split_ifs <;> simp

theorem readDataLoop_appends (h : ∀ id, P (.emit (.readDataByIdent id))) (n did : ℕ) :
    Appends P s (readDataLoop B env n did s).2 := by
  induction n generalizing s did with
  | zero => exact .refl P s
  | succ n ih =>
    have hread (bs : Bytes) (id : UInt16) : Appends P s (handleReadDataByIdent B env
        ((s.setSend bs).emitEvent (.readDataByIdent id)) id).2 :=
      .trans (((appends_setSend bs).2 (.refl P s)).emit (h id)) (handleReadDataByIdent_appends _)
    unfold readDataLoop
    dsimp only
    split_ifs
    · simp
    · simpa using hread _ _
    · exact (hread _ _).trans (ih _)

theorem readDataByIdentifier0x22_appends (h : ∀ id, P (.emit (.readDataByIdent id))) :
    Appends P s (readDataByIdentifier0x22 B env s).2 := by
  unfold readDataByIdentifier0x22
  dsimp only
  split_ifs
  · simp
  · simp
  · exact .trans (by simp) (readDataLoop_appends h _ _)

theorem readMemoryByAddress0x23_appends
    (h : ∀ addr size, P (.emit (.readMemByAddr addr size))) :
    Appends P s (readMemoryByAddress0x23 s).2 := by
  have hemit (bs : Bytes) (addr size : ℕ) :
      Appends P s ((s.setSend bs).emitEvent (.readMemByAddr addr size)) :=
    ((appends_setSend bs).2 (.refl P s)).emit (h addr size)
  unfold readMemoryByAddress0x23
  split_ifs
  · simp
  · split
    · simp
    · dsimp only
      split_ifs <;> simp [hemit]

theorem sendKey0x27_appends (h : ∀ level key, P (.emit (.secAccessValidateKey level key)))
    (subFunction : UInt8) (record : Bytes) :
    Appends P s (sendKey0x27 env s subFunction record).2 := by
  have hemit (level : UInt8) (key : Bytes) :
      Appends P s (s.emitEvent (.secAccessValidateKey level key)) :=
    (Appends.refl P s).emit (h level key)
  unfold sendKey0x27
  dsimp only
  split_ifs <;> simp [hemit]

theorem handleRequestSeed_appends : Appends P s (handleRequestSeed env s).2 := by
  unfold handleRequestSeed
  split <;> simp

theorem requestSeed0x27_appends (h : ∀ level record, P (.emit (.secAccessRequestSeed level record)))
    (subFunction : UInt8) (record : Bytes) :
    Appends P s (requestSeed0x27 env s subFunction record).2 := by
  have hseed : Appends P s (handleRequestSeed env
      (s.emitEvent (.secAccessRequestSeed subFunction record))).2 :=
    .trans ((Appends.refl P s).emit (h _ _)) handleRequestSeed_appends
  unfold requestSeed0x27
  dsimp only
  split_ifs <;> simp [hseed]

theorem securityAccess0x27_appends
    (h : ∀ level record, P (.emit (.secAccessRequestSeed level record)))
    (h' : ∀ level key, P (.emit (.secAccessValidateKey level key))) :
    Appends P s (securityAccess0x27 env s).2 := by
  unfold securityAccess0x27
  dsimp only
  split_ifs
  · simp
  · simp
  · simp
  · exact .trans (by simp) (sendKey0x27_appends h' _ _)
  · exact .trans (by simp) (requestSeed0x27_appends h _ _)

theorem communicationControl0x28_appends
    (h : ∀ ctrlType commType, P (.emit (.commCtrl ctrlType commType))) :
    Appends P s (communicationControl0x28 s).2 := by
  have hemit (ctrlType commType : UInt8) :
      Appends P s (s.emitEvent (.commCtrl ctrlType commType)) :=
    (Appends.refl P s).emit (h ctrlType commType)
  unfold communicationControl0x28
  dsimp only [handleCommCtrl]
  split_ifs <;> simp [hemit]

theorem handleWriteDataByIdent_appends (hmkdir : P (.mkdir B.didPath))
    (hfopen : P (.fopen B.didFile)) (hfwrite : ∀ data, P (.fwrite B.didFile data))
    (hfclose : P (.fclose B.didFile)) (hremove : P (.remove B.didFile)) (dataId : UInt16)
    (data : Bytes) :
    Appends P s (handleWriteDataByIdent B env s dataId data).2 := by
  have hdir : Appends P s (if env.statDid then s else s.emit (.mkdir B.didPath)) := by
    split_ifs
    · exact .refl P s
    · exact (Appends.refl P s).emit hmkdir
  unfold handleWriteDataByIdent
  dsimp only
  revert hdir
  generalize (if env.statDid = true then s else s.emit (.mkdir B.didPath)) = d
  intro hdir
  split_ifs
  · exact hdir
  · exact hdir.emit hfopen
  · exact (((hdir.emit hfopen).emit (hfwrite _)).emit hfclose).emit hremove
  · exact ((hdir.emit hfopen).emit (hfwrite _)).emit hfclose
  · exact .refl P s

theorem writeDataByIdentifier0x2E_appends
    (h : ∀ id data, P (.emit (.writeDataByIdent id data))) (hmkdir : P (.mkdir B.didPath))
    (hfopen : P (.fopen B.didFile)) (hfwrite : ∀ data, P (.fwrite B.didFile data))
    (hfclose : P (.fclose B.didFile)) (hremove : P (.remove B.didFile)) :
    Appends P s (writeDataByIdentifier0x2E B env s).2 := by
  have hwrite (dataId : UInt16) (data : Bytes) : Appends P s (handleWriteDataByIdent B env
      (s.emitEvent (.writeDataByIdent dataId data)) dataId data).2 :=
    .trans ((Appends.refl P s).emit (h _ _))
      (handleWriteDataByIdent_appends hmkdir hfopen hfwrite hfclose hremove _ _)
  unfold writeDataByIdentifier0x2E
  dsimp only
  split_ifs <;> simp [hwrite]

theorem requestUpgradeFw_appends (h : P .startUpgradeThread) {result : UInt8}
    (ht : requestUpgradeFw B s = .ok (result, t)) : Appends P s t := by
  unfold requestUpgradeFw at ht
  dsimp only at ht
  split_ifs at ht
  obtain ⟨-, rfl⟩ := Prod.mk.inj (Except.ok.inj ht)
  cases B.target
  · exact appends_setUpgradeThread.2 ((Appends.refl P s).emit h)
  · exact appends_setUpgradeThread.2 (((appends_setUpgrading true).2 (.refl P s)).emit h)

theorem queryUpgradeProgress_appends (h : ∀ cmd, P (.system cmd)) :
    Appends P s (queryUpgradeProgress B s).2 := by
  unfold queryUpgradeProgress
  split
  · split_ifs
    · exact .refl P s
    · exact (Appends.refl P s).emit (h _)
  · split_ifs <;> exact .refl P s

/-- The command line of `calcFileChecksum`. -/
def checksumCommand (file : Bytes) : Bytes := ascii ['m', 'd', '5', 's', 'u', 'm', ' '] ++ file

theorem handleRoutineCtrl_appends (hpopen : P (.popen (checksumCommand s.app.fwFilename)))
    (hsystem : ∀ cmd, P (.system cmd)) {ctrlType : UInt8} {id : UInt16} {optionRecord : Bytes}
    (hstart : id = 0xFF02 → ctrlType = kStartRoutine → P .startUpgradeThread)
    (ht : handleRoutineCtrl B env s ctrlType id optionRecord = .ok (c, t)) :
    Appends P s t := by
  have hself {c' : ResponseCode} {u : Sys} (hu : Appends P s u)
      (heq : (Except.ok (c', u) : Except Fault (ResponseCode × Sys)) = .ok (c, t)) :
      Appends P s t := by
    obtain ⟨-, rfl⟩ := Prod.mk.inj (Except.ok.inj heq)
    exact hu
  unfold handleRoutineCtrl at ht
  dsimp only at ht
  split_ifs at ht with _ _ _ _ _ hid htype
  · exact hself (.refl P s) ht
  · exact hself (.refl P s) ht
  · split at ht
    · cases ht
    · exact hself ((appends_safeCopy _).2 ((Appends.refl P s).emit hpopen)) ht
  · exact hself (.refl P s) ht
  · exact hself ((appends_safeCopy _).2 (.refl P s)) ht
  · split at ht
    · cases ht
    · next hreq =>
      have hupgrade := requestUpgradeFw_appends (hstart hid htype) hreq
      exact hself ((appends_safeCopy _).2 hupgrade) ht
  · exact hself ((appends_safeCopy _).2 (queryUpgradeProgress_appends hsystem)) ht
  · exact hself (.refl P s) ht
  · exact hself (.refl P s) ht

theorem routineControl0x31_appends
    (h : ∀ type id record, P (.emit (.routineCtrl type id record)))
    (hpopen : P (.popen (checksumCommand s.app.fwFilename))) (hsystem : ∀ cmd, P (.system cmd))
    (hstart : s.StartsUpgrade → P .startUpgradeThread)
    (ht : routineControl0x31 B env s = .ok (c, t)) : Appends P s t := by
  have hemit (bs : Bytes) (type : UInt8) (id : UInt16) (record : Bytes) :
      Appends P s ((s.setSend bs).emitEvent (.routineCtrl type id record)) :=
    ((appends_setSend bs).2 (.refl P s)).emit (h type id record)
  unfold routineControl0x31 at ht
  dsimp only at ht
  split_ifs at ht with hlen
  · cases ht
    simp
  · split at ht
    · cases ht
    · next c' u hroutine =>
      have hrun : Appends P s u := by
        refine (hemit _ _ _ _).trans (handleRoutineCtrl_appends ?_ hsystem ?_ hroutine)
        · exact hpopen
        · exact fun hid htype => hstart ⟨Nat.not_lt.1 hlen, htype, hid⟩
      split_ifs at ht <;> cases ht <;> simpa using hrun
  · cases ht
    simp

theorem requestTransfer_appends {sid : UInt8} {event : ℕ → ℕ → UInt8 → UDSServerEvent}
    {handler : ResponseCode} (h : ∀ addr size format, P (.emit (event addr size format))) :
    Appends P s (requestTransfer B s sid event handler).2 := by
  have hemit (addr size : ℕ) (format : UInt8) :
      Appends P s (s.emitEvent (event addr size format)) :=
    (Appends.refl P s).emit (h addr size format)
  unfold requestTransfer
  cases decodeAddressAndLength s.srv.r 2 with
  | error err => dsimp only; split_ifs <;> simp
  | ok p => dsimp only; split_ifs <;> simp [hemit]

theorem handleTransferData_appends (hnone : P .fileNotOpened)
    (hfwrite : ∀ path data, P (.fwrite path data)) (data : Bytes) :
    Appends P s (handleTransferData env s data).2 := by
  unfold handleTransferData
  split
  · exact (Appends.refl P s).emit hnone
  · dsimp only
    split_ifs <;> exact ((appends_setFile _ _).2 (.refl P s)).emit (hfwrite _ _)

theorem transferData0x36_appends (h : ∀ data, P (.emit (.transferData data)))
    (hnone : P .fileNotOpened) (hfwrite : ∀ path data, P (.fwrite path data)) :
    Appends P s (transferData0x36 env s).2 := by
  have hdata {u : Sys} (hu : Appends P s u) (bs data : Bytes) : Appends P s (handleTransferData env
      ((u.setSend bs).emitEvent (.transferData data)) data).2 :=
    .trans (((appends_setSend bs).2 hu).emit (h _)) (handleTransferData_appends hnone hfwrite _)
  have hself (bs data : Bytes) := hdata (.refl P s) bs data
  have hnext (bs data : Bytes) := hdata (appends_nextBlock.2 (.refl P s)) bs data
  unfold transferData0x36 transferDataFail
  dsimp only
  split_ifs
  · simp
  · simp
  · simp
  · simp
  · split <;> simp [hself]
  · simp
  · split <;> simp [hnext]

theorem requestTransferExit0x37_appends (h : ∀ data, P (.emit (.requestTransferExit data)))
    (hfclose : ∀ path, P (.fclose path)) (hsystem : ∀ cmd, P (.system cmd))
    (ht : requestTransferExit0x37 s = .ok (c, t)) : Appends P s t := by
  rcases requestTransferExit0x37_cases s with ⟨-, heq⟩ | ⟨-, -, heq⟩ | ⟨path, -, -, heq⟩
  · cases ht.symm.trans heq
    simp
  · cases ht.symm.trans heq
  · obtain ⟨-, rfl⟩ := Prod.mk.inj (Except.ok.inj (ht.symm.trans heq))
    have hexit := (((appends_setSend [responseSidOf kSIDRequestTransferExit]).2 (.refl P s)).emit
      (h (s.srv.r.recvSlice 1 (subSize16 s.srv.r.recvLen 1)))).emit (hfclose path)
    exact ((appends_setFwFile none).2 hexit).emit (hsystem _)

theorem requestFileTransfer0x38_appends (h : ∀ args, P (.emit (.requestFileTransfer args)))
    (hfopen : ∀ path, P (.fopen path)) : Appends P s (requestFileTransfer0x38 B env s).2 := by
  rcases requestFileTransfer0x38_cases B env s with ⟨err, -, -, heq⟩ | ⟨args, -, -, -, heq⟩
  · simp [heq]
  · have hopen := ((appends_setFwFilename (B.fwFilename args)).2
      ((Appends.refl P s).emit (h args))).emit (hfopen (cStr (B.fwFilename args)))
    rw [heq]
    split_ifs
    · exact hopen
    · exact hopen

theorem testerPresent0x3E_appends : Appends P s (testerPresent0x3E env s).2 := by
  unfold testerPresent0x3E
  dsimp only
  split_ifs <;> simp

theorem controlDTCSetting0x85_appends : Appends P s (controlDTCSetting0x85 s).2 := by
  unfold controlDTCSetting0x85
  dsimp only
  split_ifs <;> simp

/-- **A service has no other effects.** -/
theorem UDSService.call_appends (service : UDSService) (h : service.call B env s = .ok (c, t)) :
    Appends (service.Causes B) s t := by
  cases service
  case routineControl =>
    exact routineControl0x31_appends (by simp [Causes]) (by simp [Causes]) (by simp [Causes])
      (by simp [Causes]) h
  case requestTransferExit =>
    exact requestTransferExit0x37_appends (by simp [Causes]) (by simp [Causes]) (by simp [Causes]) h
  all_goals
    obtain rfl : t = _ := congrArg Prod.snd (Except.ok.inj h).symm
  case diagnosticSessionControl => exact diagnosticSessionControl0x10_appends (by simp [Causes])
  case ecuReset => exact ecuReset0x11_appends (by simp [Causes])
  case readDataByIdentifier => exact readDataByIdentifier0x22_appends (by simp [Causes])
  case readMemoryByAddress => exact readMemoryByAddress0x23_appends (by simp [Causes])
  case securityAccess => exact securityAccess0x27_appends (by simp [Causes]) (by simp [Causes])
  case communicationControl => exact communicationControl0x28_appends (by simp [Causes])
  case writeDataByIdentifier =>
    exact writeDataByIdentifier0x2E_appends (by simp [Causes]) (by simp [Causes]) (by simp [Causes])
      (by simp [Causes]) (by simp [Causes]) (by simp [Causes])
  case requestDownload => exact requestTransfer_appends (by simp [Causes])
  case requestUpload => exact requestTransfer_appends (by simp [Causes])
  case transferData =>
    exact transferData0x36_appends (by simp [Causes]) (by simp [Causes]) (by simp [Causes])
  case requestFileTransfer =>
    exact requestFileTransfer0x38_appends (by simp [Causes]) (by simp [Causes])
  case testerPresent => exact testerPresent0x3E_appends
  case controlDTCSetting => exact controlDTCSetting0x85_appends

/-- The effects of the service of a request, if it has one. -/
def Exchange.Causes (B : Build) (x : Exchange) (e : Effect) : Prop :=
  ∃ service, x.service = some service ∧ service.Causes B e

/-- **An exchange has the effects of its service.** -/
theorem ServerStep.appends {x : Exchange} (h : ServerStep B s x t) : Appends (x.Causes B) s t := by
  have hreceive : Appends (x.Causes B) s (s.receive B x.env x.req) := Appends.refl (x.Causes B) s
  rcases h.cases with ⟨-, heq⟩ | ⟨service, u, hsome, hcall, rfl⟩
  · rw [(Prod.mk.inj heq).2]
    exact hreceive
  · have hcauses (e : Effect) (he : service.Causes B e) : x.Causes B e := ⟨service, hsome, he⟩
    have htotal := hreceive.trans ((service.call_appends hcall).mono hcauses)
    split_ifs <;> simpa using htotal

end EcuUpgrade
