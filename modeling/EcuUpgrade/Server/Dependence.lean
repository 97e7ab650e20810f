import EcuUpgrade.Lib.FlagBit
import EcuUpgrade.Server.TransferServices

/-!
# What a service depends on

Two processes that agree on what a service reads go through its call side by side: they leave the
same code, the same response and the same effects, and they still agree on every component on which
they agreed before. `UDSService.Reads` names the components a service reads. Of the receive buffer
only the cells in a given set have to agree; a service that reads others asks for them.

## Main definitions

* `Alike`: the agreement of two processes.
* `UDSService.Reads`: the components a service reads.

## Main results

* `UDSService.call_alike`, `processRequest_alike`: a service depends on nothing but what it reads.
* `UDSService.call_alike_of_sameSubFunction`: nor does it depend on the suppress bit, with one
  exception.
-/

namespace EcuUpgrade

open ResponseCode

/-- The members that no service assigns to agree, the timers apart. -/
def SameSettings (s t : Sys) : Prop :=
  t.srv.p2Ms = s.srv.p2Ms ∧ t.srv.p2StarMs = s.srv.p2StarMs ∧ t.srv.s3Ms = s.srv.s3Ms ∧
    t.srv.rcrrp = s.srv.rcrrp ∧ t.srv.r.taType = s.srv.r.taType

theorem Settings.same {s t : Sys} (hs : Settings s) (ht : Settings t) : SameSettings s t :=
  ⟨ht.p2Ms.trans hs.p2Ms.symm, ht.p2StarMs.trans hs.p2StarMs.symm, ht.s3Ms.trans hs.s3Ms.symm,
    ht.rcrrp.trans hs.rcrrp.symm, ht.taType.trans hs.taType.symm⟩

/-- Two processes agree on the components in `K`, on the settings and on the cells in `C` of the
receive buffer, and had the same effects since their logs were `l` and `m`. -/
structure Alike (K : Component → Prop) (C : ℕ → Prop) (l m : List Effect) (s t : Sys) : Prop where
  same : ∀ k, K k → k.Same s t
  settings : SameSettings s t
  cells : ∀ i, C i → t.srv.r.recvBuf i = s.srv.r.recvBuf i
  recvLen : t.srv.r.recvLen = s.srv.r.recvLen
  sendBufSize : t.srv.r.sendBufSize = s.srv.r.sendBufSize
  effects : ∃ effects, s.log = l ++ effects ∧ t.log = m ++ effects

/-- The sub-functions of the received requests agree, the suppress bit apart. -/
def SameSubFunction (s t : Sys) : Prop :=
  t.srv.r.recvBuf 1 &&& 0x7F = s.srv.r.recvBuf 1 &&& 0x7F

/-- Two outcomes agree, the responses included. -/
structure AlikeOutcome (K : Component → Prop) (C : ℕ → Prop) (l m : List Effect)
    (p p' : ResponseCode × Sys) : Prop where
  code : p'.1 = p.1
  sent : p'.2.srv.r.sendBuf = p.2.srv.r.sendBuf
  alike : Alike K C l m p.2 p'.2

/-- Two evaluations agree: both end the process in the same way, or their outcomes agree. -/
inductive AlikeResult (K : Component → Prop) (C : ℕ → Prop) (l m : List Effect) :
    Except Fault (ResponseCode × Sys) → Except Fault (ResponseCode × Sys) → Prop
  | error (e : Fault) : AlikeResult K C l m (.error e) (.error e)
  | ok {p p' : ResponseCode × Sys} (h : AlikeOutcome K C l m p p') :
      AlikeResult K C l m (.ok p) (.ok p')

variable {B : Build} {env : Env} {K : Component → Prop} {C : ℕ → Prop} {l m : List Effect}
  {s t : Sys} {c : ResponseCode}

theorem AlikeResult.eq_error {e : Fault} {r : Except Fault (ResponseCode × Sys)}
    (h : AlikeResult K C l m (.error e) r) : r = .error e := by
  cases h
  rfl

theorem AlikeResult.exists_ok {p : ResponseCode × Sys} {r : Except Fault (ResponseCode × Sys)}
    (h : AlikeResult K C l m (.ok p) r) : ∃ p', r = .ok p' ∧ AlikeOutcome K C l m p p' := by
  cases h with
  | ok h => exact ⟨_, rfl, h⟩

/-- Two processes that agree on all components, on the response and on the effects are equal. -/
theorem Sys.eq_of_same (h : ∀ k : Component, k.Same s t)
    (hsend : t.srv.r.sendBuf = s.srv.r.sendBuf) (hlog : t.log = s.log) : t = s := by
  have hset := h .settings
  have hreq := h .request
  have hsession := h .session
  have hs3 := h .s3Timer
  have hreset := h .reset
  have hfail := h .authFailTimer
  have hlevel := h .securityLevel
  have hseed := h .seed
  have htransfer := h .transfer
  have hname := h .fwFilename
  have hfile := h .fwFile
  have hupgrading := h .upgrading
  have hthread := h .upgradeThread
  have hfs : t.fs = s.fs := funext fun path => h (.file path)
  simp only [Component.Same] at *
  simp [Sys.ext_iff, UDSServer.ext_iff, UDSReq.ext_iff, UpgradeServer.ext_iff, *]

/-! ### Elementary steps -/

namespace Alike

variable (h : Alike K C l m s t)
include h

theorem setSend (bs bs' : Bytes) : Alike K C l m (s.setSend bs) (t.setSend bs') :=
  ⟨fun k hk => by cases k <;> exact h.same _ hk, h.settings, h.cells, h.recvLen, h.sendBufSize,
    h.effects⟩

theorem emit (e : Effect) : Alike K C l m (s.emit e) (t.emit e) := by
  obtain ⟨effects, hs, ht⟩ := h.effects
  refine ⟨fun k hk => ?_, h.settings, h.cells, h.recvLen, h.sendBufSize, effects ++ [e], ?_, ?_⟩
  · cases k with
    | notOpened =>
      have hsame : Effect.fileNotOpened ∈ t.log ↔ Effect.fileNotOpened ∈ s.log := h.same _ hk
      simp [Component.Same, Sys.emit, hsame]
    | _ => exact h.same _ hk
  · exact (congrArg (· ++ [e]) hs).trans (List.append_assoc _ _ _)
  · exact (congrArg (· ++ [e]) ht).trans (List.append_assoc _ _ _)

theorem emitEvent (ev : UDSServerEvent) : Alike K C l m (s.emitEvent ev) (t.emitEvent ev) :=
  h.emit _

theorem setFile (path : Path) (c : Option Bytes) :
    Alike K C l m (s.setFile path c) (t.setFile path c) := by
  refine ⟨fun k hk => ?_, h.settings, h.cells, h.recvLen, h.sendBufSize, h.effects⟩
  cases k with
  | file p =>
    have hsame : t.fs p = s.fs p := h.same _ hk
    simp [Component.Same, Sys.setFile, hsame]
  | _ => exact h.same _ hk

theorem setSession (sessType : UInt8) :
    Alike K C l m (s.setSession sessType) (t.setSession sessType) :=
  ⟨fun k hk => by cases k <;> first | exact h.same _ hk | rfl, h.settings, h.cells, h.recvLen,
    h.sendBufSize, h.effects⟩

theorem restartS3 (now : UInt32) : Alike K C l m (s.restartS3 now) (t.restartS3 now) := by
  have hs3 : t.srv.s3Ms = s.srv.s3Ms := h.settings.2.2.1
  refine ⟨fun k hk => ?_, h.settings, h.cells, h.recvLen, h.sendBufSize, h.effects⟩
  cases k with
  | s3Timer => simp [Component.Same, Sys.restartS3, hs3]
  | _ => exact h.same _ hk

theorem scheduleReset (resetType : UInt8) (timer : UInt32) :
    Alike K C l m (s.scheduleReset resetType timer) (t.scheduleReset resetType timer) :=
  ⟨fun k hk => by cases k <;> first | exact h.same _ hk | exact ⟨rfl, rfl, rfl⟩, h.settings,
    h.cells, h.recvLen, h.sendBufSize, h.effects⟩

theorem setAuthFailTimer (timer : UInt32) :
    Alike K C l m (s.setAuthFailTimer timer) (t.setAuthFailTimer timer) :=
  ⟨fun k hk => by cases k <;> first | exact h.same _ hk | rfl, h.settings, h.cells, h.recvLen,
    h.sendBufSize, h.effects⟩

theorem setSecurityLevel (level : UInt8) :
    Alike K C l m (s.setSecurityLevel level) (t.setSecurityLevel level) :=
  ⟨fun k hk => by cases k <;> first | exact h.same _ hk | rfl, h.settings, h.cells, h.recvLen,
    h.sendBufSize, h.effects⟩

theorem setSeed (seed : UInt32) : Alike K C l m (s.setSeed seed) (t.setSeed seed) :=
  ⟨fun k hk => by cases k <;> first | exact h.same _ hk | rfl, h.settings, h.cells, h.recvLen,
    h.sendBufSize, h.effects⟩

theorem setFwFilename (name : Bytes) :
    Alike K C l m (s.setFwFilename name) (t.setFwFilename name) :=
  ⟨fun k hk => by cases k <;> first | exact h.same _ hk | rfl, h.settings, h.cells, h.recvLen,
    h.sendBufSize, h.effects⟩

theorem setFwFile (file : Option Path) : Alike K C l m (s.setFwFile file) (t.setFwFile file) :=
  ⟨fun k hk => by cases k <;> first | exact h.same _ hk | rfl, h.settings, h.cells, h.recvLen,
    h.sendBufSize, h.effects⟩

theorem setUpgrading (b : Bool) : Alike K C l m (s.setUpgrading b) (t.setUpgrading b) :=
  ⟨fun k hk => by cases k <;> first | exact h.same _ hk | rfl, h.settings, h.cells, h.recvLen,
    h.sendBufSize, h.effects⟩

theorem setUpgradeThread : Alike K C l m s.setUpgradeThread t.setUpgradeThread :=
  ⟨fun k hk => by cases k <;> first | exact h.same _ hk | rfl, h.settings, h.cells, h.recvLen,
    h.sendBufSize, h.effects⟩

theorem resetTransfer : Alike K C l m s.resetTransfer t.resetTransfer := by
  refine ⟨fun k hk => ?_, h.settings, h.cells, h.recvLen, h.sendBufSize, h.effects⟩
  cases k with
  | transfer => exact ⟨rfl, rfl, rfl, rfl, (h.same _ hk).2.2.2.2⟩
  | _ => exact h.same _ hk

theorem startTransfer (total blockLength : ℕ) :
    Alike K C l m (s.startTransfer total blockLength) (t.startTransfer total blockLength) :=
  ⟨fun k hk => by cases k <;> first | exact h.same _ hk | exact ⟨rfl, rfl, rfl, rfl, rfl⟩,
    h.settings, h.cells, h.recvLen, h.sendBufSize, h.effects⟩

theorem nextBlock : Alike K C l m s.nextBlock t.nextBlock := by
  refine ⟨fun k hk => ?_, h.settings, h.cells, h.recvLen, h.sendBufSize, h.effects⟩
  cases k with
  | transfer =>
    obtain ⟨hactive, hcounter, hrest⟩ := h.same _ hk
    exact ⟨hactive, congrArg (· + 1) hcounter, hrest⟩
  | _ => exact h.same _ hk

theorem countBytes (n : ℕ) : Alike K C l m (s.countBytes n) (t.countBytes n) := by
  refine ⟨fun k hk => ?_, h.settings, h.cells, h.recvLen, h.sendBufSize, h.effects⟩
  cases k with
  | transfer =>
    obtain ⟨hactive, hcounter, htotal, hbytes, hlength⟩ := h.same _ hk
    exact ⟨hactive, hcounter, htotal, congrArg (fun k => (k + n) % 2 ^ 64) hbytes, hlength⟩
  | _ => exact h.same _ hk

/-! ### Responses -/

theorem answer (c : ResponseCode) (bs : Bytes) :
    AlikeOutcome K C l m (c, s.setSend bs) (c, t.setSend bs) :=
  ⟨rfl, rfl, h.setSend bs bs⟩

theorem negativeResponse (h₀ : C 0) (c : ResponseCode) :
    AlikeOutcome K C l m (s.negativeResponse c) (t.negativeResponse c) :=
  ⟨rfl, congrArg (fun b => [0x7F, b, c.toByte]) (h.cells 0 h₀), h.setSend _ _⟩

theorem safeCopy (hsend : t.srv.r.sendBuf = s.srv.r.sendBuf) (src : Bytes) :
    AlikeOutcome K C l m (s.safeCopy src) (t.safeCopy src) := by
  unfold Sys.safeCopy
  rw [hsend, h.sendBufSize]
  split_ifs
  · exact h.answer _ _
  · exact ⟨rfl, hsend, h⟩

theorem recvBuf (hC : ∀ i, C i) : t.srv.r.recvBuf = s.srv.r.recvBuf :=
  funext fun i => h.cells i (hC i)

theorem recvSlice {off len : ℕ} (hC : ∀ i, off ≤ i → i < off + len → C i) :
    t.srv.r.recvSlice off len = s.srv.r.recvSlice off len := by
  refine List.map_congr_left fun i hi => h.cells i ?_
  obtain ⟨hle, hlt⟩ := List.mem_range'_1.1 hi
  exact hC i hle hlt

end Alike

/-! ### Services -/

/-- Bytes that agree without the suppress bit agree behind every mask that leaves it out. -/
theorem masked_eq {a b mask : UInt8} (h : a &&& 0x7F = b &&& 0x7F) (hm : 0x7F &&& mask = mask) :
    a &&& mask = b &&& mask := by
  rw [← hm, ← UInt8.and_assoc, ← UInt8.and_assoc, h]

theorem SameSubFunction.masked (h : SameSubFunction s t) {mask : UInt8}
    (hm : 0x7F &&& mask = mask) :
    t.srv.r.recvBuf 1 &&& mask = s.srv.r.recvBuf 1 &&& mask :=
  masked_eq h hm

/-- The sub-functions that differ from a given one in the suppress bit only. -/
theorem subFunction_eq_iff (a b : UInt8) :
    a &&& 0x7F = b &&& 0x7F ↔ a = b ||| 0x80 ∨ a = b &&& 0x7F := by
  rw [← UInt8.toBitVec_inj, ← UInt8.toBitVec_inj, ← UInt8.toBitVec_inj]
  exact FlagBit.clearFlag_eq_iff (i := 7) (x := a.toBitVec) (y := b.toBitVec)

/-- The two sub-functions that `TesterPresent` accepts. -/
theorem zeroSubFunction_iff (b : UInt8) : b = 0x00 ∨ b = 0x80 ↔ b &&& 0x7F = 0 :=
  or_comm.trans (subFunction_eq_iff b 0).symm

/-- The bytes of a request from some place on are received bytes. -/
theorem sub_le_recvLen (off : ℕ) (hlen : off ≤ s.srv.r.recvLen) :
    off + subSize16 s.srv.r.recvLen off ≤ s.srv.r.recvLen := by
  have hle : subSize16 s.srv.r.recvLen off ≤ s.srv.r.recvLen - off := by
    rw [subSize16, subSize, if_pos hlen]
    exact Nat.mod_le _ _
  omega

section Services

variable (h : Alike K C l m s t)
include h

theorem diagnosticSessionControl0x10_alike (h₀ : C 0)
    (h₁ : 2 ≤ s.srv.r.recvLen → SameSubFunction s t) :
    AlikeOutcome K C l m (diagnosticSessionControl0x10 env s)
      (diagnosticSessionControl0x10 env t) := by
  have hp2 (ev : UDSServerEvent) : handleDiagSessCtrl (t.emitEvent ev) =
      handleDiagSessCtrl (s.emitEvent ev) :=
    Prod.ext rfl (Prod.ext h.settings.1 h.settings.2.1)
  unfold diagnosticSessionControl0x10
  dsimp only
  rw [h.recvLen]
  by_cases hlen : s.srv.r.recvLen < 2
  · rw [if_pos hlen, if_pos hlen]
    exact h.negativeResponse h₀ _
  rw [if_neg hlen, if_neg hlen, (h₁ (Nat.not_lt.1 hlen)).masked rfl, hp2]
  split_ifs
  · exact (h.emitEvent _).negativeResponse h₀ _
  · exact ((h.emitEvent _).setSession _).answer _ _
  · exact (((h.emitEvent _).setSession _).restartS3 _).answer _ _

theorem ecuReset0x11_alike (h₀ : C 0) (h₁ : 2 ≤ s.srv.r.recvLen → SameSubFunction s t) :
    AlikeOutcome K C l m (ecuReset0x11 env s) (ecuReset0x11 env t) := by
  unfold ecuReset0x11
  dsimp only
  rw [h.recvLen]
  by_cases hlen : s.srv.r.recvLen < 2
  · rw [if_pos hlen, if_pos hlen]
    exact h.negativeResponse h₀ _
  rw [if_neg hlen, if_neg hlen, (h₁ (Nat.not_lt.1 hlen)).masked rfl]
  split_ifs
  · exact (h.emitEvent _).negativeResponse h₀ _
  · exact ((h.emitEvent _).scheduleReset _ _).answer _ _
  · exact ((h.emitEvent _).scheduleReset _ _).answer _ _

variable (env) in
theorem handleReadDataByIdent_alike (hk : K (.file B.didFile))
    (hsend : t.srv.r.sendBuf = s.srv.r.sendBuf) (dataId : UInt16) :
    AlikeOutcome K C l m (handleReadDataByIdent B env s dataId)
      (handleReadDataByIdent B env t dataId) := by
  have hfile : t.fs B.didFile = s.fs B.didFile := h.same _ hk
  unfold handleReadDataByIdent
  dsimp only
  rw [hfile]
  split_ifs
  · exact ⟨rfl, (h.safeCopy hsend _).sent, (h.safeCopy hsend _).alike⟩
  · exact ⟨rfl, (h.safeCopy hsend _).sent, (h.safeCopy hsend _).alike⟩
  · exact ⟨rfl, (h.safeCopy hsend _).sent, (h.safeCopy hsend _).alike⟩
  · exact ⟨rfl, hsend, h⟩

theorem readDataLoop_alike (hk : K (.file B.didFile)) (h₀ : C 0)
    (hC : ∀ i, i < s.srv.r.recvLen → C i) (hsend : t.srv.r.sendBuf = s.srv.r.sendBuf) (n did : ℕ)
    (hn : 1 + (did + n) * 2 ≤ s.srv.r.recvLen) :
    AlikeOutcome K C l m (readDataLoop B env n did s) (readDataLoop B env n did t) := by
  induction n generalizing did s t with
  | zero => exact ⟨rfl, hsend, h⟩
  | succ n ih =>
    have hread (bs : Bytes) (id : UInt16) := handleReadDataByIdent_alike env
      ((h.setSend bs bs).emitEvent (.readDataByIdent id)) hk rfl id
    have hlen (bs : Bytes) (id : UInt16) : (handleReadDataByIdent B env
        ((s.setSend bs).emitEvent (.readDataByIdent id)) id).2.srv.r.recvLen = s.srv.r.recvLen :=
      (@handleReadDataByIdent_same B env _ .request id).2.1
    have hidx : (1 + did * 2) % 2 ^ 16 ≤ 1 + did * 2 := Nat.mod_le _ _
    unfold readDataLoop
    dsimp only
    rw [h.cells _ (hC ((1 + did * 2) % 2 ^ 16) (by omega)),
      h.cells _ (hC ((1 + did * 2) % 2 ^ 16 + 1) (by omega)), hsend, h.sendBufSize,
      (hread _ _).code]
    split_ifs
    · exact h.negativeResponse h₀ _
    · exact (hread _ _).alike.negativeResponse h₀ _
    · refine ih (hread _ _).alike ?_ (hread _ _).sent _ ?_
      · rw [hlen]
        exact hC
      · rw [hlen]
        omega

theorem readDataByIdentifier0x22_alike (hk : K (.file B.didFile)) (h₀ : C 0)
    (hC : ∀ i, i < s.srv.r.recvLen → C i) :
    AlikeOutcome K C l m (readDataByIdentifier0x22 B env s) (readDataByIdentifier0x22 B env t) := by
  have hlen : (t.setSend [responseSidOf kSIDReadDataByIdentifier]).srv.r.recvLen =
      (s.setSend [responseSidOf kSIDReadDataByIdentifier]).srv.r.recvLen := h.recvLen
  unfold readDataByIdentifier0x22
  dsimp only
  rw [hlen]
  split_ifs with hodd hnone
  · exact (h.setSend _ _).negativeResponse h₀ _
  · exact (h.setSend _ _).negativeResponse h₀ _
  · -- the length is odd, so that the last identifier has both its bytes
    have hn : 1 + (0 + s.srv.r.recvLen / 2 % 256) * 2 ≤ s.srv.r.recvLen := by
      have hsub : subSize s.srv.r.recvLen 1 % 2 = 0 := not_not.1 hodd
      have hmod : s.srv.r.recvLen / 2 % 256 ≤ s.srv.r.recvLen / 2 := Nat.mod_le _ _
      unfold subSize at hsub
      split_ifs at hsub <;> omega
    exact readDataLoop_alike (h.setSend [responseSidOf kSIDReadDataByIdentifier] _) hk h₀ hC rfl
      _ _ hn

theorem decodeAddressAndLength_alike (hC : ∀ i, C i) (off : ℕ) :
    decodeAddressAndLength t.srv.r off = decodeAddressAndLength s.srv.r off := by
  unfold decodeAddressAndLength
  rw [h.recvLen, h.recvBuf hC]

theorem readMemoryByAddress0x23_alike (hC : ∀ i, C i) :
    AlikeOutcome K C l m (readMemoryByAddress0x23 s) (readMemoryByAddress0x23 t) := by
  unfold readMemoryByAddress0x23
  rw [h.recvLen, decodeAddressAndLength_alike h hC]
  split_ifs
  · exact h.negativeResponse (hC 0) _
  · split
    · exact h.negativeResponse (hC 0) _
    · -- the handler refuses every address
      exact ((h.setSend _ _).emitEvent _).negativeResponse (hC 0) _

theorem sendKey0x27_alike (hseed : K .seed) (h₀ : C 0) (subFunction : UInt8) (record : Bytes) :
    AlikeOutcome K C l m (sendKey0x27 env s subFunction record)
      (sendKey0x27 env t subFunction record) := by
  have hkey (ev : UDSServerEvent) : handleValidateKey (t.emitEvent ev) record =
      handleValidateKey (s.emitEvent ev) record := by
    have hsame : (t.emitEvent ev).app.seed = (s.emitEvent ev).app.seed := h.same _ hseed
    unfold handleValidateKey
    rw [hsame]
  unfold sendKey0x27
  dsimp only
  rw [hkey]
  split_ifs
  · exact ((h.emitEvent _).setAuthFailTimer _).negativeResponse h₀ _
  · exact ((h.emitEvent _).setSecurityLevel _).answer _ _

variable (env) in
theorem handleRequestSeed_alike (hsend : t.srv.r.sendBuf = s.srv.r.sendBuf) :
    AlikeOutcome K C l m (handleRequestSeed env s) (handleRequestSeed env t) := by
  unfold handleRequestSeed
  split
  · exact ⟨rfl, hsend, h⟩
  · refine (h.setSeed _).safeCopy ?_ _
    exact hsend

theorem requestSeed0x27_alike (hlevel : K .securityLevel) (h₀ : C 0)
    (hsend : t.srv.r.sendBuf = s.srv.r.sendBuf) (subFunction : UInt8) (record : Bytes) :
    AlikeOutcome K C l m (requestSeed0x27 env s subFunction record)
      (requestSeed0x27 env t subFunction record) := by
  have hsame : t.srv.securityLevel = s.srv.securityLevel := h.same _ hlevel
  have hseed := handleRequestSeed_alike env
    (h.emitEvent (.secAccessRequestSeed subFunction record)) hsend
  unfold requestSeed0x27
  dsimp only
  rw [hsame, hseed.code, hseed.sent]
  split_ifs
  · exact h.safeCopy hsend _
  · exact hseed.alike.negativeResponse h₀ _
  · exact hseed.alike.negativeResponse h₀ _
  · exact ⟨rfl, hseed.sent, hseed.alike⟩

theorem securityAccess0x27_alike (hset : K .settings) (hfail : K .authFailTimer)
    (hlevel : K .securityLevel) (hseed : K .seed) (h₀ : C 0) (h₁ : C 1)
    (hC : ∀ i, i < 2 + subSize16 s.srv.r.recvLen 2 → C i) :
    AlikeOutcome K C l m (securityAccess0x27 env s) (securityAccess0x27 env t) := by
  have hboot : t.srv.secAccessBootDelayTimer = s.srv.secAccessBootDelayTimer :=
    (h.same _ hset).2.2.2.2.1
  have hauth : t.srv.secAccessAuthFailTimer = s.srv.secAccessAuthFailTimer := h.same _ hfail
  have hrecord (bs : Bytes) :
      (t.setSend bs).srv.r.recvSlice 2 (subSize16 (t.setSend bs).srv.r.recvLen 2) =
        (s.setSend bs).srv.r.recvSlice 2 (subSize16 (s.setSend bs).srv.r.recvLen 2) := by
    rw [(h.setSend bs bs).recvLen]
    exact (h.setSend bs bs).recvSlice fun i _ hi => hC i hi
  unfold securityAccess0x27
  dsimp only
  rw [h.cells 1 h₁, hboot, hauth, hrecord]
  split_ifs
  · exact h.negativeResponse h₀ _
  · exact h.negativeResponse h₀ _
  · exact h.negativeResponse h₀ _
  · exact sendKey0x27_alike (h.setSend _ _) hseed h₀ _ _
  · exact requestSeed0x27_alike (h.setSend _ _) hlevel h₀ rfl _ _

theorem communicationControl0x28_alike (h₀ : C 0)
    (h₁ : 2 ≤ s.srv.r.recvLen → SameSubFunction s t)
    (hC : ∀ i, 2 ≤ i → i < s.srv.r.recvLen → C i) :
    AlikeOutcome K C l m (communicationControl0x28 s) (communicationControl0x28 t) := by
  unfold communicationControl0x28
  dsimp only
  rw [h.recvLen]
  by_cases hlen : s.srv.r.recvLen < 3
  · rw [if_pos hlen, if_pos hlen]
    exact h.negativeResponse h₀ _
  rw [if_neg hlen, if_neg hlen, (h₁ (by omega)).masked rfl,
    h.cells 2 (hC 2 (Nat.le_refl 2) (Nat.not_lt.1 hlen))]
  split_ifs
  · exact (h.emitEvent _).negativeResponse h₀ _
  · exact (h.emitEvent _).answer _ _

variable (env) in
theorem handleWriteDataByIdent_alike (dataId : UInt16) (data : Bytes) :
    (handleWriteDataByIdent B env t dataId data).1 =
        (handleWriteDataByIdent B env s dataId data).1 ∧
      Alike K C l m (handleWriteDataByIdent B env s dataId data).2
        (handleWriteDataByIdent B env t dataId data).2 := by
  have hdir : Alike K C l m (if env.statDid = true then s else s.emit (.mkdir B.didPath))
      (if env.statDid = true then t else t.emit (.mkdir B.didPath)) := by
    split_ifs
    · exact h
    · exact h.emit _
  unfold handleWriteDataByIdent
  dsimp only
  revert hdir
  generalize (if env.statDid = true then s else s.emit (.mkdir B.didPath)) = d
  generalize (if env.statDid = true then t else t.emit (.mkdir B.didPath)) = d'
  intro hdir
  split_ifs
  · exact ⟨rfl, hdir⟩
  · exact ⟨rfl, hdir.emit _⟩
  · exact ⟨rfl, (((((hdir.emit _).setFile _ _).emit _).emit _).setFile _ _).emit _⟩
  · exact ⟨rfl, (((hdir.emit _).setFile _ _).emit _).emit _⟩
  · exact ⟨rfl, h⟩

theorem writeDataByIdentifier0x2E_alike (h₀ : C 0) (hC : ∀ i, i < s.srv.r.recvLen → C i) :
    AlikeOutcome K C l m (writeDataByIdentifier0x2E B env s)
      (writeDataByIdentifier0x2E B env t) := by
  have hwrite (dataId : UInt16) (data : Bytes) := handleWriteDataByIdent_alike env (B := B)
    (h.emitEvent (.writeDataByIdent dataId data)) dataId data
  unfold writeDataByIdentifier0x2E
  dsimp only
  rw [h.recvLen]
  by_cases hlen : s.srv.r.recvLen < 4
  · rw [if_pos hlen, if_pos hlen]
    exact h.negativeResponse h₀ _
  have hsub := sub_le_recvLen (s := s) 3 (by omega)
  rw [if_neg hlen, if_neg hlen, h.cells 1 (hC 1 (by omega)), h.cells 2 (hC 2 (by omega)),
    h.recvSlice fun i _ hi => hC i (by omega), (hwrite _ _).1]
  split_ifs
  · exact (hwrite _ _).2.negativeResponse h₀ _
  · exact (hwrite _ _).2.answer _ _

theorem requestUpgradeFw_alike (hthread : K .upgradeThread)
    (hsend : t.srv.r.sendBuf = s.srv.r.sendBuf) :
    (∃ e, requestUpgradeFw B s = .error e ∧ requestUpgradeFw B t = .error e) ∨
      ∃ result u u', requestUpgradeFw B s = .ok (result, u) ∧
        requestUpgradeFw B t = .ok (result, u') ∧ u'.srv.r.sendBuf = u.srv.r.sendBuf ∧
        Alike K C l m u u' := by
  have hstart {u u' : Sys} (hu : Alike K C l m u u') :
      u'.app.upgradeThread = u.app.upgradeThread ∧ Alike K C l m
        (u.emit .startUpgradeThread).setUpgradeThread
        (u'.emit .startUpgradeThread).setUpgradeThread :=
    ⟨hu.same _ hthread, (hu.emit _).setUpgradeThread⟩
  unfold requestUpgradeFw
  cases B.target
  · obtain ⟨hthread', hu⟩ := hstart h
    dsimp only
    rw [hthread']
    split_ifs
    · exact .inl ⟨_, rfl, rfl⟩
    · exact .inr ⟨_, _, _, rfl, rfl, hsend, hu⟩
  · obtain ⟨hthread', hu⟩ := hstart (h.setUpgrading true)
    dsimp only
    rw [hthread']
    split_ifs
    · exact .inl ⟨_, rfl, rfl⟩
    · exact .inr ⟨_, _, _, rfl, rfl, hsend, hu⟩

theorem queryUpgradeProgress_alike (hthread : K .upgradeThread) (hupgrading : K .upgrading)
    (hsend : t.srv.r.sendBuf = s.srv.r.sendBuf) :
    (queryUpgradeProgress B t).1 = (queryUpgradeProgress B s).1 ∧
      (queryUpgradeProgress B t).2.srv.r.sendBuf = (queryUpgradeProgress B s).2.srv.r.sendBuf ∧
      Alike K C l m (queryUpgradeProgress B s).2 (queryUpgradeProgress B t).2 := by
  have hthread' : t.app.upgradeThread = s.app.upgradeThread := h.same _ hthread
  have hupgrading' : t.app.upgrading = s.app.upgrading := h.same _ hupgrading
  unfold queryUpgradeProgress
  rw [hthread', hupgrading']
  split
  · split_ifs
    · exact ⟨rfl, hsend, h⟩
    · exact ⟨rfl, hsend, h.emit _⟩
  · split_ifs <;> exact ⟨rfl, hsend, h⟩

variable (B env) in
theorem handleRoutineCtrl_alike (hthread : K .upgradeThread) (hupgrading : K .upgrading)
    (hname : K .fwFilename) (hsend : t.srv.r.sendBuf = s.srv.r.sendBuf) (ctrlType : UInt8)
    (id : UInt16) (record : Bytes) :
    AlikeResult K C l m (handleRoutineCtrl B env s ctrlType id record)
      (handleRoutineCtrl B env t ctrlType id record) := by
  have hname' : t.app.fwFilename = s.app.fwFilename := h.same _ hname
  have hself (c : ResponseCode) : AlikeOutcome K C l m (c, s) (c, t) := ⟨rfl, hsend, h⟩
  have hcopy {u u' : Sys} (hu : Alike K C l m u u') (hsend' : u'.srv.r.sendBuf = u.srv.r.sendBuf)
      (bs : Bytes) : AlikeOutcome K C l m (kPositiveResponse, (u.safeCopy bs).2)
        (kPositiveResponse, (u'.safeCopy bs).2) :=
    ⟨rfl, (hu.safeCopy hsend' bs).sent, (hu.safeCopy hsend' bs).alike⟩
  unfold handleRoutineCtrl
  dsimp only
  rw [hname']
  split_ifs
  · exact .ok (hself _)
  · exact .ok (hself _)
  · split
    · exact .error _
    · exact .ok (hcopy (h.emit _) hsend _)
  · exact .ok (hself _)
  · exact .ok (hcopy h hsend _)
  · rcases requestUpgradeFw_alike h hthread hsend (B := B) with
      ⟨e, hs, ht⟩ | ⟨result, u, u', hs, ht, hsend', hu⟩
    · rw [hs, ht]
      exact .error _
    · rw [hs, ht]
      exact .ok (hcopy hu hsend' _)
  · obtain ⟨hresult, hsend', hu⟩ := queryUpgradeProgress_alike h hthread hupgrading hsend (B := B)
    rw [hresult]
    exact .ok (hcopy hu hsend' _)
  · exact .ok (hself _)
  · exact .ok (hself _)

theorem routineControl0x31_alike (hthread : K .upgradeThread) (hupgrading : K .upgrading)
    (hname : K .fwFilename) (h₀ : C 0) (h₁ : 2 ≤ s.srv.r.recvLen → SameSubFunction s t)
    (hC : ∀ i, 2 ≤ i → i < s.srv.r.recvLen → C i) :
    AlikeResult K C l m (routineControl0x31 B env s) (routineControl0x31 B env t) := by
  unfold routineControl0x31
  dsimp only
  rw [h.recvLen]
  by_cases hlen : s.srv.r.recvLen < 4
  · rw [if_pos hlen, if_pos hlen]
    exact .ok (h.negativeResponse h₀ _)
  have hsub := sub_le_recvLen (s := s) 4 (by omega)
  rw [if_neg hlen, if_neg hlen, (h₁ (by omega)).masked rfl, h.cells 2 (hC 2 (by omega) (by omega)),
    h.cells 3 (hC 3 (by omega) (by omega)),
    h.recvSlice fun i hle hi => hC i (by omega) (by omega)]
  split_ifs
  · set type := s.srv.r.recvBuf 1 &&& 0x7F
    set id := word16 (s.srv.r.recvBuf 2) (s.srv.r.recvBuf 3)
    set record := s.srv.r.recvSlice 4 (subSize16 s.srv.r.recvLen 4)
    set bs := [responseSidOf kSIDRoutineControl, type, (id >>> 8).toUInt8, id.toUInt8]
    have hroutine := handleRoutineCtrl_alike B env
      ((h.setSend bs bs).emitEvent (.routineCtrl type id record)) hthread hupgrading hname rfl type
      id record
    revert hroutine
    generalize handleRoutineCtrl B env _ type id record = r
    generalize handleRoutineCtrl B env _ type id record = r'
    intro hroutine
    cases hroutine with
    | error e => exact .error e
    | @ok p p' hout =>
      obtain ⟨c, u⟩ := p
      obtain ⟨c', u'⟩ := p'
      obtain rfl : c' = c := hout.code
      dsimp only
      split_ifs
      · exact .ok (hout.alike.negativeResponse h₀ _)
      · exact .ok ⟨rfl, hout.sent, hout.alike⟩
  · exact .ok ((h.setSend _ _).negativeResponse h₀ _)

theorem requestTransfer_alike (htransfer : K .transfer) (hC : ∀ i, C i) (sid : UInt8)
    (event : ℕ → ℕ → UInt8 → UDSServerEvent) (handler : ResponseCode) :
    AlikeOutcome K C l m (requestTransfer B s sid event handler)
      (requestTransfer B t sid event handler) := by
  have hactive : t.srv.xferIsActive = s.srv.xferIsActive := (h.same _ htransfer).1
  unfold requestTransfer
  rw [hactive, h.recvLen, h.recvBuf hC, decodeAddressAndLength_alike h hC]
  cases decodeAddressAndLength s.srv.r 2 with
  | error err =>
    dsimp only
    split_ifs <;> exact h.negativeResponse (hC 0) _
  | ok p =>
    dsimp only
    split_ifs
    · exact h.negativeResponse (hC 0) _
    · exact h.negativeResponse (hC 0) _
    · exact (h.emitEvent _).negativeResponse (hC 0) _
    · exact (h.emitEvent _).negativeResponse (hC 0) _
    · exact ((h.emitEvent _).startTransfer _ _).answer _ _

theorem handleTransferData_alike {env' : Env} (henv : env'.fwriteFw = env.fwriteFw)
    (hfile : K .fwFile) (hpath : ∀ path, s.app.fwFile = some path → K (.file path))
    (hsend : t.srv.r.sendBuf = s.srv.r.sendBuf) (data : Bytes) :
    AlikeOutcome K C l m (handleTransferData env s data) (handleTransferData env' t data) := by
  have hfile' : t.app.fwFile = s.app.fwFile := h.same _ hfile
  unfold handleTransferData
  rw [hfile', henv]
  split
  · exact ⟨rfl, hsend, h.emit _⟩
  · next path hopened =>
    have hcontents : t.fs path = s.fs path := h.same _ (hpath path hopened)
    dsimp only
    rw [hcontents]
    split_ifs
    · exact ⟨rfl, hsend, (h.setFile _ _).emit _⟩
    · exact ⟨rfl, hsend, (h.setFile _ _).emit _⟩

theorem transferDataFail_alike (h₀ : C 0) (err : ResponseCode) :
    AlikeOutcome K C l m (transferDataFail s err) (transferDataFail t err) :=
  h.resetTransfer.negativeResponse h₀ err

/-- A block is handled alike if the received bytes and the outcomes of writing agree. -/
theorem transferData0x36_alike {env' : Env} (henv : env'.fwriteFw = env.fwriteFw)
    (htransfer : K .transfer) (hfile : K .fwFile)
    (hpath : ∀ path, s.app.fwFile = some path → K (.file path)) (h₀ : C 0)
    (hC : ∀ i, i < s.srv.r.recvLen → C i) :
    AlikeOutcome K C l m (transferData0x36 env s) (transferData0x36 env' t) := by
  obtain ⟨hactive, hcounter, htotal, hbytes, -⟩ := h.same _ htransfer
  have hrcrrp : t.srv.rcrrp = s.srv.rcrrp := h.settings.2.2.2.1
  unfold transferData0x36
  dsimp only
  rw [hactive, h.recvLen, hrcrrp, hcounter]
  by_cases hinactive : (!s.srv.xferIsActive) = true
  · rw [if_pos hinactive, if_pos hinactive]
    exact h.negativeResponse h₀ _
  rw [if_neg hinactive, if_neg hinactive]
  by_cases hlen : s.srv.r.recvLen < 2
  · rw [if_pos hlen, if_pos hlen]
    exact transferDataFail_alike h h₀ _
  rw [if_neg hlen, if_neg hlen, h.cells 1 (hC 1 (by omega))]
  have hnext : Alike K C l m (if s.srv.rcrrp = true then s else s.nextBlock)
      (if s.srv.rcrrp = true then t else t.nextBlock) ∧
      (if s.srv.rcrrp = true then s else s.nextBlock).app = s.app := by
    split_ifs
    · exact ⟨h, rfl⟩
    · exact ⟨h.nextBlock, rfl⟩
  revert hnext
  generalize (if s.srv.rcrrp = true then s else s.nextBlock) = u
  generalize (if s.srv.rcrrp = true then t else t.nextBlock) = u'
  rintro ⟨hu, happ⟩
  have hdata : u'.srv.r.recvSlice 2 (subSize16 s.srv.r.recvLen 2) =
      u.srv.r.recvSlice 2 (subSize16 s.srv.r.recvLen 2) := by
    have hsub := sub_le_recvLen (s := s) 2 (by omega)
    exact hu.recvSlice fun i _ hi => hC i (by omega)
  obtain ⟨-, -, htotal', hbytes', -⟩ := hu.same _ htransfer
  rw [htotal', hbytes', hdata]
  set data := u.srv.r.recvSlice 2 (subSize16 s.srv.r.recvLen 2)
  set bs := [responseSidOf kSIDTransferData, s.srv.r.recvBuf 1]
  have hwrite := handleTransferData_alike ((hu.setSend bs bs).emitEvent (.transferData data)) henv
    hfile (fun path hopened => hpath path (happ ▸ hopened)) rfl data
  rw [hwrite.code]
  split_ifs
  · exact transferDataFail_alike h h₀ _
  · exact transferDataFail_alike hu h₀ _
  · split
    · exact ⟨rfl, hwrite.sent, hwrite.alike.countBytes _⟩
    · exact hwrite.alike.negativeResponse h₀ _
    · exact transferDataFail_alike hwrite.alike h₀ _

omit h in
theorem closeTransfer_sendBuf (s : Sys) (path : Path) :
    (s.closeTransfer path).srv.r.sendBuf = [responseSidOf kSIDRequestTransferExit] := rfl

/-- The exit of a transfer is handled alike if the received bytes agree. -/
theorem requestTransferExit0x37_alike (htransfer : K .transfer) (hfile : K .fwFile)
    (hC : ∀ i, i < 1 + subSize16 s.srv.r.recvLen 1 → C i) :
    AlikeResult K C l m (requestTransferExit0x37 s) (requestTransferExit0x37 t) := by
  have hactive : t.srv.xferIsActive = s.srv.xferIsActive := (h.same _ htransfer).1
  have hfile' : t.app.fwFile = s.app.fwFile := h.same _ hfile
  have hrecord : t.srv.r.recvSlice 1 (subSize16 s.srv.r.recvLen 1) =
      s.srv.r.recvSlice 1 (subSize16 s.srv.r.recvLen 1) :=
    h.recvSlice fun i _ hi => hC i hi
  rcases requestTransferExit0x37_cases s with
    ⟨hinactive, heq⟩ | ⟨hactive', hnone, heq⟩ | ⟨path, hactive', hsome, heq⟩
  · rcases requestTransferExit0x37_cases t with ⟨-, heq'⟩ | ⟨hactive', -⟩ | ⟨path, hactive', -⟩
    · rw [heq, heq']
      exact .ok (h.negativeResponse (hC 0 (by omega)) _)
    · cases (hactive.symm.trans hactive').symm.trans hinactive
    · cases (hactive.symm.trans hactive').symm.trans hinactive
  · rcases requestTransferExit0x37_cases t with ⟨hinactive, -⟩ | ⟨-, -, heq'⟩ | ⟨path, -, hsome, -⟩
    · cases (hactive.symm.trans hinactive).symm.trans hactive'
    · rw [heq, heq']
      exact .error _
    · cases (hfile'.symm.trans hsome).symm.trans hnone
  · rcases requestTransferExit0x37_cases t with ⟨hinactive, -⟩ | ⟨-, hnone, -⟩ |
      ⟨path', -, hsome', heq'⟩
    · cases (hactive.symm.trans hinactive).symm.trans hactive'
    · cases (hfile'.symm.trans hnone).symm.trans hsome
    · obtain rfl : path' = path := Option.some.inj ((hfile'.symm.trans hsome').symm.trans hsome)
      rw [heq, heq']
      have hsent := (closeTransfer_sendBuf t path').trans (closeTransfer_sendBuf s path').symm
      refine .ok ⟨rfl, hsent, ?_⟩
      unfold Sys.closeTransfer
      rw [h.recvLen, hrecord]
      exact (((((h.setSend _ _).emitEvent _).emit _).setFwFile _).emit _).resetTransfer

/-- A transfer is opened alike if the fields of the request and the outcome of `fopen` agree. -/
theorem requestFileTransfer0x38_alike {env' : Env} (henv : env'.fopenFw = env.fopenFw)
    (htransfer : K .transfer) (h₀ : C 0)
    (hC : 4 ≤ s.srv.r.recvLen → ∀ i ∈ fileTransferArgs.indices s.srv.r.recvBuf, C i) :
    AlikeOutcome K C l m (requestFileTransfer0x38 B env s) (requestFileTransfer0x38 B env' t) := by
  have hactive : t.srv.xferIsActive = s.srv.xferIsActive := (h.same _ htransfer).1
  unfold requestFileTransfer0x38
  rw [hactive, h.recvLen]
  by_cases hactive' : s.srv.xferIsActive = true
  · rw [if_pos hactive', if_pos hactive']
    exact h.negativeResponse h₀ _
  rw [if_neg hactive', if_neg hactive']
  by_cases hlen : s.srv.r.recvLen < 4
  · rw [if_pos hlen, if_pos hlen]
    exact h.negativeResponse h₀ _
  rw [if_neg hlen, if_neg hlen]
  have hargs : fileTransferArgs.run t.srv.r.recvBuf = fileTransferArgs.run s.srv.r.recvBuf :=
    (Reads.run_congr fileTransferArgs fun i hi =>
      (h.cells i (hC (Nat.not_lt.1 hlen) i hi)).symm).symm
  rw [hargs]
  split
  · exact h.negativeResponse h₀ _
  · dsimp only
    rw [handleRequestFileTransfer_eq, handleRequestFileTransfer_eq, henv]
    cases env.fopenFw with
    | false => exact ((((h.emitEvent _).setFwFilename _).emit _).setFwFile _).negativeResponse h₀ _
    | true =>
      have hpositive : ¬kPositiveResponse ≠ kPositiveResponse := not_not.2 rfl
      simp only [if_true, if_neg hpositive]
      exact ((((((h.emitEvent _).setFwFilename _).emit _).setFile _ _).setFwFile
        _).startTransfer _ _).answer _ _

theorem testerPresent0x3E_alike (h₀ : C 0) (h₁ : 2 ≤ s.srv.r.recvLen → SameSubFunction s t) :
    AlikeOutcome K C l m (testerPresent0x3E env s) (testerPresent0x3E env t) := by
  unfold testerPresent0x3E
  dsimp only
  rw [h.recvLen]
  by_cases hlen : s.srv.r.recvLen < 2 ∨ 2 < s.srv.r.recvLen
  · rw [if_pos hlen, if_pos hlen]
    exact h.negativeResponse h₀ _
  have hsame : t.srv.r.recvBuf 1 &&& 0x7F = s.srv.r.recvBuf 1 &&& 0x7F := h₁ (by omega)
  rw [if_neg hlen, if_neg hlen]
  simp only [zeroSubFunction_iff, hsame]
  split_ifs
  · exact (h.restartS3 _).answer _ _
  · exact h.negativeResponse h₀ _

theorem controlDTCSetting0x85_alike (h₀ : C 0)
    (h₁ : 2 ≤ s.srv.r.recvLen → SameSubFunction s t) :
    AlikeOutcome K C l m (controlDTCSetting0x85 s) (controlDTCSetting0x85 t) := by
  unfold controlDTCSetting0x85
  dsimp only
  rw [h.recvLen]
  by_cases hlen : s.srv.r.recvLen < 2
  · rw [if_pos hlen, if_pos hlen]
    exact h.negativeResponse h₀ _
  rw [if_neg hlen, if_neg hlen, (h₁ (Nat.not_lt.1 hlen)).masked rfl]
  exact h.answer _ _

end Services

/-! ### Evaluations -/

/-- The components that a service reads, what `SameSettings` has apart. -/
def UDSService.Reads (B : Build) : UDSService → Component → Prop
  | .readDataByIdentifier, k => k = .file B.didFile
  | .securityAccess, k => k = .settings ∨ k = .authFailTimer ∨ k = .securityLevel ∨ k = .seed
  | .routineControl, k => k = .fwFilename ∨ k = .upgrading ∨ k = .upgradeThread
  | .requestDownload, k => k = .transfer
  | .requestUpload, k => k = .transfer
  | .transferData, k => k = .transfer ∨ k = .fwFile ∨ ∃ path, k = .file path
  | .requestTransferExit, k => k = .transfer ∨ k = .fwFile
  | .requestFileTransfer, k => k = .transfer
  | _, _ => False

/-- The services that may read what lies behind the request. -/
def UDSService.ReadsBehind (s : Sys) : UDSService → Prop
  | .securityAccess => s.srv.r.recvLen < 2
  | .requestTransferExit => s.srv.r.recvLen < 1
  | .readMemoryByAddress | .requestDownload | .requestUpload | .requestFileTransfer => True
  | _ => False

/-- **The services with a sub-function mask the suppress bit**, `SecurityAccess` apart. -/
theorem UDSService.call_alike_of_sameSubFunction {service : UDSService}
    (hsub : service.hasSubFunction = true) (hne : service ≠ .securityAccess)
    (h : Alike K C l m s t) (hK : ∀ k, service.Reads B k → K k) (h₀ : C 0)
    (h₁ : 2 ≤ s.srv.r.recvLen → SameSubFunction s t)
    (hC : ∀ i, 2 ≤ i → i < s.srv.r.recvLen → C i) :
    AlikeResult K C l m (service.call B env s) (service.call B env t) := by
  cases service
  case diagnosticSessionControl => exact .ok (diagnosticSessionControl0x10_alike h h₀ h₁)
  case ecuReset => exact .ok (ecuReset0x11_alike h h₀ h₁)
  case securityAccess => exact absurd rfl hne
  case communicationControl => exact .ok (communicationControl0x28_alike h h₀ h₁ hC)
  case routineControl =>
    exact routineControl0x31_alike h (hK _ (by simp [Reads])) (hK _ (by simp [Reads]))
      (hK _ (by simp [Reads])) h₀ h₁ hC
  case testerPresent => exact .ok (testerPresent0x3E_alike h h₀ h₁)
  case controlDTCSetting => exact .ok (controlDTCSetting0x85_alike h h₀ h₁)
  all_goals cases hsub

/-- **A service depends on nothing but what it reads.** -/
theorem UDSService.call_alike (service : UDSService) (h : Alike K C l m s t)
    (hK : ∀ k, service.Reads B k → K k) (h₀ : C 0) (hC : ∀ i, i < s.srv.r.recvLen → C i)
    (hall : service.ReadsBehind s → ∀ i, C i) :
    AlikeResult K C l m (service.call B env s) (service.call B env t) := by
  by_cases hsub : service.hasSubFunction = true ∧ service ≠ .securityAccess
  · refine service.call_alike_of_sameSubFunction hsub.1 hsub.2 h hK h₀ (fun hlen => ?_)
      fun i _ hi => hC i hi
    exact congrArg (· &&& 0x7F) (h.cells 1 (hC 1 hlen))
  cases service
  case requestTransferExit =>
    refine requestTransferExit0x37_alike h (hK _ (by simp [Reads])) (hK _ (by simp [Reads]))
      fun i hi => ?_
    by_cases hlen : 1 ≤ s.srv.r.recvLen
    · exact hC i (hi.trans_le (sub_le_recvLen _ hlen))
    · exact hall (Nat.not_le.1 hlen) i
  case readDataByIdentifier => exact .ok (readDataByIdentifier0x22_alike h (hK _ rfl) h₀ hC)
  case readMemoryByAddress => exact .ok (readMemoryByAddress0x23_alike h (hall trivial))
  case securityAccess =>
    have hcell {i : ℕ} (hi : i < 2 + subSize16 s.srv.r.recvLen 2) : C i := by
      by_cases hlen : 2 ≤ s.srv.r.recvLen
      · exact hC i (hi.trans_le (sub_le_recvLen _ hlen))
      · exact hall (Nat.not_le.1 hlen) i
    exact .ok (securityAccess0x27_alike h (hK _ (by simp [Reads])) (hK _ (by simp [Reads]))
      (hK _ (by simp [Reads])) (hK _ (by simp [Reads])) h₀ (hcell (by omega)) fun i => hcell)
  case writeDataByIdentifier => exact .ok (writeDataByIdentifier0x2E_alike h h₀ hC)
  case requestDownload => exact .ok (requestTransfer_alike h (hK _ rfl) (hall trivial) _ _ _)
  case requestUpload => exact .ok (requestTransfer_alike h (hK _ rfl) (hall trivial) _ _ _)
  case transferData =>
    exact .ok (transferData0x36_alike h rfl (hK _ (by simp [Reads])) (hK _ (by simp [Reads]))
      (fun path _ => hK _ (by simp [Reads])) h₀ hC)
  case requestFileTransfer =>
    exact .ok (requestFileTransfer0x38_alike h rfl (hK _ rfl) h₀ fun _ i _ => hall trivial i)
  all_goals exact absurd ⟨rfl, by simp⟩ hsub

/-- An evaluation is alike if the calls of the service are. -/
theorem evaluateServiceResponse_alike {env' : Env} (h : Alike K C l m s t) (h₀ : C 0)
    (hcall : ∀ service, getServiceForSID (s.srv.r.recvBuf 0) = some service →
      (service.hasSubFunction = true → C 1 ∨
        ∀ p, service.call B env s = .ok p → p.1 ≠ kPositiveResponse) ∧
      AlikeResult K C l m (service.call B env s) (service.call B env' t)) :
    AlikeResult K C l m (evaluateServiceResponse B env s) (evaluateServiceResponse B env' t) := by
  unfold evaluateServiceResponse
  rw [h.cells 0 h₀]
  cases hservice : getServiceForSID (s.srv.r.recvBuf 0) with
  | none => exact .ok (h.negativeResponse h₀ _)
  | some service =>
    obtain ⟨h₁, hresult⟩ := hcall service hservice
    dsimp only
    revert hresult h₁
    generalize service.call B env s = r
    generalize service.call B env' t = r'
    intro h₁ hresult
    cases hresult with
    | error e => exact .error e
    | @ok p p' hout =>
      obtain ⟨c, u⟩ := p
      obtain ⟨c', u'⟩ := p'
      obtain rfl : c' = c := hout.code
      have htaType : u'.srv.r.taType = u.srv.r.taType := hout.alike.settings.2.2.2.2
      have hbit : (service.hasSubFunction && decide (u'.srv.r.recvBuf 1 &&& 0x80 ≠ 0) &&
            decide (c' = kPositiveResponse)) =
          (service.hasSubFunction && decide (u.srv.r.recvBuf 1 &&& 0x80 ≠ 0) &&
            decide (c' = kPositiveResponse)) := by
        cases hsub : service.hasSubFunction with
        | false => rfl
        | true =>
          rcases h₁ hsub with hone | hnegative
          · have hcell : u'.srv.r.recvBuf 1 = u.srv.r.recvBuf 1 := hout.alike.cells 1 hone
            rw [hcell]
          · have hcode : c' ≠ kPositiveResponse := hnegative _ rfl
            simp [hcode]
      dsimp only
      rw [htaType, hbit]
      split_ifs
      · exact .ok (hout.alike.answer _ _)
      · exact .ok (hout.alike.answer _ _)
      · exact .ok ⟨rfl, hout.sent, hout.alike⟩

/-- Receiving requests that agree keeps the agreement of two processes. -/
theorem receive_alike {env' : Env} {q q' : Request} (hK : ∀ k, K k → k.Same s t)
    (hsettings : SameSettings s t) (hlen : q'.len = q.len)
    (hcells : ∀ i, C i → q'.buf i = q.buf i) (hrequest : K .request → q'.buf = q.buf)
    (hupgrading : K .upgrading → env'.upgradeEnds = env.upgradeEnds) :
    Alike K C s.log t.log (s.receive B env q) (t.receive B env' q') := by
  refine ⟨fun k hk => ?_, hsettings, hcells, hlen, rfl, [], (List.append_nil _).symm,
    (List.append_nil _).symm⟩
  cases k with
  | request => exact ⟨hrequest hk, hlen, rfl⟩
  | upgrading =>
    have hsame : t.app.upgrading = s.app.upgrading := hK _ hk
    simp [Component.Same, Sys.receive, hupgrading hk, hsame]
  | _ => exact hK _ hk

/-- **The evaluation of a request depends on nothing but what its service reads.** -/
theorem processRequest_alike {q : Request} (hK : ∀ k, K k → k.Same s t)
    (hsettings : SameSettings s t)
    (hreads : ∀ service, getServiceForSID (q.buf 0) = some service →
      ∀ k, service.Reads B k → K k) :
    AlikeResult K (fun _ => True) s.log t.log (processRequest B env s q)
      (processRequest B env t q) := by
  have h : Alike K (fun _ => True) s.log t.log (s.receive B env q) (t.receive B env q) :=
    receive_alike hK hsettings rfl (fun _ _ => rfl) (fun _ => rfl) fun _ => rfl
  refine evaluateServiceResponse_alike h trivial fun service hservice =>
    ⟨fun _ => .inl trivial, ?_⟩
  exact service.call_alike h (hreads service hservice) trivial (fun _ _ => trivial)
    fun _ _ => trivial

end EcuUpgrade
