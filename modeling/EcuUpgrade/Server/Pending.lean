import EcuUpgrade.Server.TransferServices

/-!
# No service asks for more time

The UDS server can call a service again as long as it answers
`requestCorrectlyReceivedResponsePending`. No handler of `UpgradeServer` returns this code, so that
every request is evaluated once.

## Main results

* `UDSService.call_final`, `evaluateServiceResponse_final`, `processRequest_final`
-/

namespace EcuUpgrade

open ResponseCode

variable {B : Build} {env : Env} {s t : Sys} {c : ResponseCode}

/-- The outcome does not ask for more time. -/
def Final (p : ResponseCode × Sys) : Prop := p.1 ≠ kRequestCorrectlyReceivedResponsePending

@[simp] theorem final_mk : Final (c, s) ↔ c ≠ kRequestCorrectlyReceivedResponsePending := Iff.rfl

@[simp] theorem final_negativeResponse :
    Final (s.negativeResponse c) ↔ c ≠ kRequestCorrectlyReceivedResponsePending := Iff.rfl

@[simp] theorem final_safeCopy (data : Bytes) : Final (s.safeCopy data) := by
  unfold Sys.safeCopy
  split_ifs <;> simp

/-! ### Handlers -/

theorem handleReadDataByIdent_final (dataId : UInt16) :
    Final (handleReadDataByIdent B env s dataId) := by
  unfold handleReadDataByIdent
  dsimp only
  split_ifs <;> simp

theorem handleValidateKey_final (key : Bytes) :
    handleValidateKey s key ≠ kRequestCorrectlyReceivedResponsePending := by
  unfold handleValidateKey
  split_ifs <;> simp

theorem handleRequestSeed_final : Final (handleRequestSeed env s) := by
  unfold handleRequestSeed
  split
  · simp
  · exact final_safeCopy _

theorem handleWriteDataByIdent_final (dataId : UInt16) (data : Bytes) :
    Final (handleWriteDataByIdent B env s dataId data) := by
  unfold handleWriteDataByIdent
  dsimp only
  split_ifs <;> simp

theorem handleRoutineCtrl_final {ctrlType : UInt8} {id : UInt16} {optionRecord : Bytes}
    (h : handleRoutineCtrl B env s ctrlType id optionRecord = .ok (c, t)) : Final (c, t) := by
  unfold handleRoutineCtrl at h
  dsimp only at h
  split_ifs at h
  any_goals
    cases h
    simp
  · split at h
    · cases h
    · cases h
      simp
  · split at h
    · cases h
    · cases h
      simp

theorem decodeAddressAndLength_final {r : UDSReq} {off : ℕ} {err : ResponseCode}
    (h : decodeAddressAndLength r off = .error err) :
    err ≠ kRequestCorrectlyReceivedResponsePending := by
  unfold decodeAddressAndLength at h
  dsimp only at h
  split_ifs at h <;> cases h <;> simp

/-! ### Services -/

theorem diagnosticSessionControl0x10_final : Final (diagnosticSessionControl0x10 env s) := by
  unfold diagnosticSessionControl0x10
  dsimp only
  split_ifs <;> simp [handleDiagSessCtrl]

theorem ecuReset0x11_final : Final (ecuReset0x11 env s) := by
  unfold ecuReset0x11
  dsimp only
  split_ifs <;> simp [handleEcuReset]

theorem readDataLoop_final (n did : ℕ) (s : Sys) : Final (readDataLoop B env n did s) := by
  induction n generalizing did s with
  | zero => simp [readDataLoop]
  | succ n ih =>
    unfold readDataLoop
    dsimp only
    split_ifs
    · simp
    · exact handleReadDataByIdent_final _
    · exact ih _ _

theorem readDataByIdentifier0x22_final : Final (readDataByIdentifier0x22 B env s) := by
  unfold readDataByIdentifier0x22
  dsimp only
  split_ifs
  · simp
  · simp
  · exact readDataLoop_final _ _ _

theorem readMemoryByAddress0x23_final : Final (readMemoryByAddress0x23 s) := by
  unfold readMemoryByAddress0x23
  split
  · simp
  split
  · next h => exact decodeAddressAndLength_final h
  · simp [handleReadMemByAddr]

theorem sendKey0x27_final (subFunction : UInt8) (record : Bytes) :
    Final (sendKey0x27 env s subFunction record) := by
  unfold sendKey0x27
  dsimp only
  split_ifs
  · exact handleValidateKey_final _
  · simp

theorem requestSeed0x27_final (subFunction : UInt8) (record : Bytes) :
    Final (requestSeed0x27 env s subFunction record) := by
  unfold requestSeed0x27
  dsimp only
  split_ifs
  · exact final_safeCopy _
  · exact handleRequestSeed_final
  · simp
  · simp

theorem securityAccess0x27_final : Final (securityAccess0x27 env s) := by
  unfold securityAccess0x27
  dsimp only
  split_ifs
  · simp
  · simp
  · simp
  · exact sendKey0x27_final _ _
  · exact requestSeed0x27_final _ _

theorem communicationControl0x28_final : Final (communicationControl0x28 s) := by
  unfold communicationControl0x28
  dsimp only
  split_ifs <;> simp [handleCommCtrl]

theorem writeDataByIdentifier0x2E_final : Final (writeDataByIdentifier0x2E B env s) := by
  unfold writeDataByIdentifier0x2E
  dsimp only
  split_ifs
  · simp
  · exact handleWriteDataByIdent_final _ _
  · simp

theorem routineControl0x31_final (h : routineControl0x31 B env s = .ok (c, t)) : Final (c, t) := by
  unfold routineControl0x31 at h
  dsimp only at h
  split_ifs at h
  · cases h
    simp
  · split at h
    · cases h
    · next hroutine =>
      split_ifs at h
      · cases h
        have hfinal := handleRoutineCtrl_final hroutine
        exact hfinal
      · cases h
        simp
  · cases h
    simp

theorem requestTransfer_final (sid : UInt8) (event : ℕ → ℕ → UInt8 → UDSServerEvent)
    {handler : ResponseCode} (h : handler ≠ kRequestCorrectlyReceivedResponsePending) :
    Final (requestTransfer B s sid event handler) := by
  unfold requestTransfer
  split
  · simp
  split
  · simp
  split
  · next herr => exact decodeAddressAndLength_final herr
  · dsimp only
    split_ifs <;> simp [h]

theorem transferData0x36_final (hs : s.srv.rcrrp = false) : Final (transferData0x36 env s) := by
  rcases transferData0x36_cases env hs with ⟨-, heq⟩ | ⟨-, -, hrefused⟩ | ⟨path, -, heq⟩
  · simp [heq]
  · exact hrefused.notPending
  · simp [heq]

theorem requestTransferExit0x37_final (h : requestTransferExit0x37 s = .ok (c, t)) :
    Final (c, t) := by
  rcases requestTransferExit0x37_cases s with ⟨-, heq⟩ | ⟨-, -, heq⟩ | ⟨path, -, -, heq⟩
  · cases h.symm.trans heq
    simp
  · cases h.symm.trans heq
  · cases h.symm.trans heq
    simp

theorem requestFileTransfer0x38_final : Final (requestFileTransfer0x38 B env s) := by
  rcases requestFileTransfer0x38_cases B env s with ⟨err, hrefusal, -, heq⟩ | ⟨args, -, -, -, heq⟩
  · rw [heq, final_negativeResponse]
    unfold Sys.fileTransferRefusal at hrefusal
    split_ifs at hrefusal
    · cases hrefusal
      simp
    · cases hrefusal
      simp
    · split at hrefusal
      · next herr =>
        cases hrefusal
        simp [fileTransferArgs_run_error herr]
      · cases hrefusal
  · rw [heq]
    split_ifs <;> simp

theorem testerPresent0x3E_final : Final (testerPresent0x3E env s) := by
  unfold testerPresent0x3E
  dsimp only
  split_ifs <;> simp

theorem controlDTCSetting0x85_final : Final (controlDTCSetting0x85 s) := by
  unfold controlDTCSetting0x85
  dsimp only
  split_ifs <;> simp

/-- **No service asks for more time.** -/
theorem UDSService.call_final {service : UDSService} (hs : s.srv.rcrrp = false)
    (h : service.call B env s = .ok (c, t)) : Final (c, t) := by
  cases service
  case routineControl => exact routineControl0x31_final h
  case requestTransferExit => exact requestTransferExit0x37_final h
  all_goals rw [← Except.ok.inj h]
  case diagnosticSessionControl => exact diagnosticSessionControl0x10_final
  case ecuReset => exact ecuReset0x11_final
  case readDataByIdentifier => exact readDataByIdentifier0x22_final
  case readMemoryByAddress => exact readMemoryByAddress0x23_final
  case securityAccess => exact securityAccess0x27_final
  case communicationControl => exact communicationControl0x28_final
  case writeDataByIdentifier => exact writeDataByIdentifier0x2E_final
  case requestDownload => exact requestTransfer_final _ _ (by simp [handleRequestDownload])
  case requestUpload => exact requestTransfer_final _ _ (by simp [handleRequestUpload])
  case transferData => exact transferData0x36_final hs
  case requestFileTransfer => exact requestFileTransfer0x38_final
  case testerPresent => exact testerPresent0x3E_final
  case controlDTCSetting => exact controlDTCSetting0x85_final

/-- **An evaluation does not ask for more time.** -/
theorem evaluateServiceResponse_final (hs : s.srv.rcrrp = false)
    (h : evaluateServiceResponse B env s = .ok (c, t)) : Final (c, t) := by
  rcases evaluateServiceResponse_cases h with ⟨-, heq⟩ | ⟨service, u, -, hcall, -⟩
  · rw [heq]
    simp
  · exact UDSService.call_final (t := u) hs hcall

/-- **A request is evaluated once.** -/
theorem processRequest_final {q : Request} (hs : s.srv.rcrrp = false)
    (h : processRequest B env s q = .ok (c, t)) : Final (c, t) :=
  evaluateServiceResponse_final (s := s.receive B env q) hs h

end EcuUpgrade
