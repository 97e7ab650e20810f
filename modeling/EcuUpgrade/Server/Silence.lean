import EcuUpgrade.Server.Reset
import EcuUpgrade.Server.Responses

/-!
# Silence after a reset

A server that has sent the positive response to an `ECUReset` never sends anything again as long as
the process runs: it was made deaf when it evaluated the request, the response was the last one it
had to send, and nothing makes it receive again.

## Main definitions

* `sentBy`: the responses sent in a list of polls.
* `Silent`: the server is deaf and has no response to send.
* `ConfirmsReset`: the message is the positive response to an `ECUReset`.

## Main results

* `ServerStep.deaf_of_confirms`: only an accepted reset is answered so.
* `PollPath.silent`: a server that has sent such a response is silent for good.
-/

namespace EcuUpgrade

open ResponseCode Runs

variable {B : Build} {env : Env} {s t u : Sys} {c : ResponseCode} {p : Poll} {tr : List Poll}

/-! ### The first byte of a response -/

/-- The response that `s` has begun is continued in `t`. -/
def Continues (s t : Sys) : Prop := s.srv.r.sendBuf <+: t.srv.r.sendBuf

theorem continues_of_eq (h : t.srv.r.sendBuf = s.srv.r.sendBuf) : Continues s t :=
  ⟨[], by rw [List.append_nil, h]⟩

theorem continues_safeCopy (h : t.srv.r.sendBuf = s.srv.r.sendBuf) (src : Bytes) :
    Continues s (t.safeCopy src).2 := by
  unfold Sys.safeCopy
  split_ifs
  · exact ⟨src, congrArg (· ++ src) h.symm⟩
  · exact continues_of_eq h

theorem Continues.head? (h : Continues s t) {b : UInt8} (hs : s.srv.r.sendBuf.head? = some b) :
    t.srv.r.sendBuf.head? = some b := by
  obtain ⟨rest, hrest⟩ := h
  rw [← hrest, List.head?_append, hs]
  rfl

theorem handleReadDataByIdent_continues (dataId : UInt16) :
    Continues s (handleReadDataByIdent B env s dataId).2 := by
  unfold handleReadDataByIdent
  dsimp only
  split_ifs
  · exact continues_safeCopy rfl _
  · exact continues_safeCopy rfl _
  · exact continues_safeCopy rfl _
  · exact continues_of_eq rfl

theorem handleRequestSeed_continues : Continues s (handleRequestSeed env s).2 := by
  unfold handleRequestSeed
  cases env.urandom with
  | none => exact continues_of_eq rfl
  | some bytes =>
    refine continues_safeCopy ?_ _
    rfl

theorem handleRoutineCtrl_continues {ctrlType : UInt8} {id : UInt16} {optionRecord : Bytes}
    (h : handleRoutineCtrl B env s ctrlType id optionRecord = .ok (c, t)) : Continues s t := by
  have hself {c' : ResponseCode} {u : Sys} (hu : Continues s u)
      (heq : (Except.ok (c', u) : Except Fault (ResponseCode × Sys)) = .ok (c, t)) :
      Continues s t := by
    obtain ⟨-, rfl⟩ := Prod.mk.inj (Except.ok.inj heq)
    exact hu
  unfold handleRoutineCtrl at h
  dsimp only at h
  split_ifs at h
  · exact hself (continues_of_eq rfl) h
  · exact hself (continues_of_eq rfl) h
  · split at h
    · cases h
    · refine hself (continues_safeCopy ?_ _) h
      rfl
  · exact hself (continues_of_eq rfl) h
  · exact hself (continues_safeCopy rfl _) h
  · split at h
    · cases h
    · next hreq =>
      refine hself (continues_safeCopy ?_ _) h
      unfold requestUpgradeFw at hreq
      dsimp only at hreq
      split_ifs at hreq
      obtain ⟨-, rfl⟩ := Prod.mk.inj (Except.ok.inj hreq)
      cases B.target <;> rfl
  · refine hself (continues_safeCopy ?_ _) h
    unfold queryUpgradeProgress
    split <;> split_ifs <;> rfl
  · exact hself (continues_of_eq rfl) h
  · exact hself (continues_of_eq rfl) h

/-- The first byte of a response is that of a negative one, or the identifier of the service plus
`0x40`. -/
def Headed (sid : UInt8) (s : Sys) : Prop :=
  s.srv.r.sendBuf.head? = some 0x7F ∨ s.srv.r.sendBuf.head? = some (sid + 0x40)

theorem Formed.headed {sid : UInt8} {q : ResponseCode × Sys} (h : Formed sid q) :
    Headed sid q.2 := by
  by_cases hc : q.1 = kPositiveResponse
  · exact .inr (h.positive hc).1
  · rw [Headed, h.negative hc]
    exact .inl rfl

theorem Continues.headed {sid : UInt8} (h : Continues s t)
    (hs : s.srv.r.sendBuf.head? = some (sid + 0x40)) : Headed sid t :=
  .inr (h.head? hs)

theorem readDataLoop_headed (n did : ℕ)
    (hs : s.srv.r.sendBuf.head? = some (kSIDReadDataByIdentifier + 0x40)) :
    Headed kSIDReadDataByIdentifier (readDataLoop B env n did s).2 := by
  induction n generalizing s did with
  | zero => exact .inr hs
  | succ n ih =>
    unfold readDataLoop
    dsimp only
    split_ifs
    · exact .inl rfl
    · exact .inl rfl
    · refine ih _ ((handleReadDataByIdent_continues _).head? ?_)
      exact (List.head?_append_of_ne_nil _ (by rintro hnil; rw [hnil] at hs; cases hs)).trans hs

theorem readDataByIdentifier0x22_headed :
    Headed kSIDReadDataByIdentifier (readDataByIdentifier0x22 B env s).2 := by
  unfold readDataByIdentifier0x22
  dsimp only
  split_ifs
  · exact .inl rfl
  · exact .inl rfl
  · exact readDataLoop_headed _ _ rfl

theorem requestSeed0x27_headed (subFunction : UInt8) (record : Bytes)
    (hs : s.srv.r.sendBuf.head? = some (kSIDSecurityAccess + 0x40)) :
    Headed kSIDSecurityAccess (requestSeed0x27 env s subFunction record).2 := by
  unfold requestSeed0x27
  dsimp only
  split_ifs
  · exact (continues_safeCopy rfl _).headed hs
  · exact .inl rfl
  · exact .inl rfl
  · exact handleRequestSeed_continues.headed hs

theorem securityAccess0x27_headed : Headed kSIDSecurityAccess (securityAccess0x27 env s).2 := by
  unfold securityAccess0x27
  dsimp only
  split_ifs
  · exact .inl rfl
  · exact .inl rfl
  · exact .inl rfl
  · unfold sendKey0x27
    dsimp only
    split_ifs
    · exact .inl rfl
    · exact .inr rfl
  · exact requestSeed0x27_headed _ _ rfl

theorem routineControl0x31_headed (h : routineControl0x31 B env s = .ok (c, t)) :
    Headed kSIDRoutineControl t := by
  unfold routineControl0x31 at h
  dsimp only at h
  split_ifs at h
  · rw [← (Prod.mk.inj (Except.ok.inj h)).2]
    exact .inl rfl
  · split at h
    · cases h
    · next hroutine =>
      split_ifs at h
      · rw [← (Prod.mk.inj (Except.ok.inj h)).2]
        exact .inl rfl
      · obtain ⟨-, rfl⟩ := Prod.mk.inj (Except.ok.inj h)
        exact (handleRoutineCtrl_continues hroutine).headed rfl
  · rw [← (Prod.mk.inj (Except.ok.inj h)).2]
    exact .inl rfl

/-- **Every service leaves a response with its first byte.** -/
theorem UDSService.call_headed {service : UDSService} (hs : Settings s)
    (hsid : s.srv.r.recvBuf 0 = service.sid) (h : service.call B env s = .ok (c, t)) :
    Headed service.sid t := by
  have hpair {q : ResponseCode × Sys} (hq : Headed service.sid q.2)
      (heq : (Except.ok q : Except Fault (ResponseCode × Sys)) = .ok (c, t)) :
      Headed service.sid t := by
    obtain rfl := Except.ok.inj heq
    exact hq
  cases service
  case routineControl => exact routineControl0x31_headed h
  case requestTransferExit => exact (requestTransferExit0x37_formed hsid h).headed
  case readDataByIdentifier => exact hpair readDataByIdentifier0x22_headed h
  case securityAccess => exact hpair securityAccess0x27_headed h
  case diagnosticSessionControl => exact hpair (diagnosticSessionControl0x10_formed hsid).headed h
  case ecuReset => exact hpair (ecuReset0x11_formed hsid).headed h
  case readMemoryByAddress => exact hpair (readMemoryByAddress0x23_formed hsid).headed h
  case communicationControl => exact hpair (communicationControl0x28_formed hsid).headed h
  case writeDataByIdentifier => exact hpair (writeDataByIdentifier0x2E_formed hsid).headed h
  case requestDownload =>
    exact hpair (requestTransfer_formed hsid (by simp [handleRequestDownload])).headed h
  case requestUpload =>
    exact hpair (requestTransfer_formed hsid (by simp [handleRequestUpload])).headed h
  case transferData => exact hpair (transferData0x36_formed hs hsid).headed h
  case requestFileTransfer => exact hpair (requestFileTransfer0x38_formed hsid).headed h
  case testerPresent => exact hpair (testerPresent0x3E_formed hsid).headed h
  case controlDTCSetting => exact hpair (controlDTCSetting0x85_formed hsid).headed h

/-! ### Confirmed resets -/

/-- The message is the positive response to an `ECUReset`. -/
def ConfirmsReset (response : Bytes) : Prop := response.head? = some (kSIDEcuReset + 0x40)

/-- **Only an accepted reset is confirmed**, and it makes the server deaf. -/
theorem ServerStep.deaf_of_confirms (hs : Settings s) {x : Exchange} (h : ServerStep B s x t)
    (hconfirms : ConfirmsReset x.sent) : t.srv.notReadyToReceive = true := by
  rcases h.cases with ⟨-, heq⟩ | ⟨service, -, hsome, -, -⟩
  · rw [h.2, (Prod.mk.inj heq).2] at hconfirms
    cases hconfirms
  obtain ⟨u, hcall, -, hsent⟩ := h.call_sent hs hsome
  have hsid : x.req.buf 0 = service.sid := getServiceForSID_eq_some_iff.1 hsome
  have hheaded : Headed service.sid u := UDSService.call_headed hs.receive hsid hcall
  rw [hsent] at hconfirms
  split_ifs at hconfirms
  · cases hconfirms
  unfold ConfirmsReset at hconfirms
  rcases hheaded with hnegative | hpositive
  · rw [hnegative] at hconfirms
    cases hconfirms
  rw [hpositive] at hconfirms
  obtain rfl : service = .ecuReset := by
    cases service <;> first | rfl | exact absurd hconfirms (by decide)
  rcases h.reset with ⟨-, hdeaf, -⟩ | ⟨hnot, -⟩
  · exact hdeaf
  · have hshort : x.req.len < 2 := Nat.not_le.1 fun hlen => hnot ⟨hsome, hlen⟩
    rcases ecuReset0x11_cases x.env (s.receive B x.env x.req) with ⟨-, heq⟩ | ⟨hlen, -⟩
    · have hcall' : ecuReset0x11 x.env (s.receive B x.env x.req) = (x.code, u) :=
        Except.ok.inj hcall
      obtain ⟨-, rfl⟩ := Prod.mk.inj (hcall'.symm.trans heq)
      cases hpositive
    · exact absurd hlen (Nat.not_le.2 hshort)

/-! ### Polls -/

/-- The response that a poll sends. -/
def PollEvent.response : PollEvent → Option Bytes
  | .send response => some response
  | _ => none

/-- The responses sent in a list of polls. -/
def sentBy (tr : List Poll) : List Bytes :=
  tr.flatMap fun p => p.events.filterMap PollEvent.response

/-- The server does not receive, and it has no response to send. -/
structure Silent (s : Sys) : Prop where
  settings : Settings s
  idle : s.srv.requestInProgress = false
  deaf : s.srv.notReadyToReceive = true

/-- The response in progress confirms a reset only if the server is deaf. -/
structure ConfirmsDeaf (s : Sys) : Prop where
  settings : Settings s
  deaf : s.srv.requestInProgress = true → ConfirmsReset s.srv.r.sendBuf →
    s.srv.notReadyToReceive = true

theorem confirmsDeaf_udsServerInit (env : Env) (fs : Path → Option Bytes) :
    ConfirmsDeaf (udsServerInit env fs) :=
  ⟨settings_udsServerInit env fs, fun h => absurd h Bool.false_ne_true⟩

/-- A silent server stays silent. -/
theorem Silent.step (hsilent : Silent s) (h : PollStep B s p t) :
    p.events = [] ∧ Silent t := by
  obtain ⟨hs, hidle, hdeaf⟩ := hsilent
  have ht : Settings t := hs.pollStep h
  cases h.cases hs with
  | wait hprogress => simp [hidle] at hprogress
  | answer hprogress => simp [hidle] at hprogress
  | deaf _ _ heq hevents =>
    refine ⟨hevents, ht, ?_, ?_⟩
    · rw [heq, pollTimers_requestInProgress, hidle]
    · rw [heq, pollTimers_notReadyToReceive, hdeaf]
  | idle _ hready => simp [hdeaf] at hready
  | evaluate _ hready => simp [hdeaf] at hready

/-- **What a poll does to a response in progress.** A poll that sends the confirmation of a reset
leaves the server silent. -/
theorem ConfirmsDeaf.step (hinv : ConfirmsDeaf s) (h : PollStep B s p t) :
    ConfirmsDeaf t ∧ ((∃ r ∈ sentBy [p], ConfirmsReset r) → Silent t) := by
  obtain ⟨hs, hdeaf⟩ := hinv
  have ht : Settings t := hs.pollStep h
  have hnone (hevents : p.events.filterMap PollEvent.response = []) :
      ¬∃ r ∈ sentBy [p], ConfirmsReset r := by
    simp [sentBy, hevents]
  cases h.cases hs with
  | wait hprogress heq hevents =>
    refine ⟨⟨ht, fun _ hconfirms => ?_⟩, fun hsent => absurd hsent (hnone (by rw [hevents]; rfl))⟩
    rw [heq, pollTimers_notReadyToReceive]
    rw [heq, pollTimers_sendBuf] at hconfirms
    exact hdeaf hprogress hconfirms
  | answer hprogress heq hevents =>
    obtain ⟨timer, rfl⟩ := heq
    refine ⟨⟨ht, fun hidle => absurd hidle Bool.false_ne_true⟩, ?_⟩
    rintro ⟨r, hr, hconfirms⟩
    obtain rfl : r = s.srv.r.sendBuf := by
      simpa [sentBy, hevents, PollEvent.response] using hr
    refine ⟨ht, rfl, ?_⟩
    exact (pollTimers_notReadyToReceive (B := B)).trans (hdeaf hprogress hconfirms)
  | deaf hprogress _ heq hevents =>
    refine ⟨⟨ht, fun hbusy => ?_⟩, fun hsent => absurd hsent (hnone (by rw [hevents]; rfl))⟩
    rw [heq, pollTimers_requestInProgress, hprogress] at hbusy
    cases hbusy
  | idle hprogress _ _ heq hevents =>
    refine ⟨⟨ht, fun hbusy => ?_⟩, fun hsent => absurd hsent (hnone (by rw [hevents]; rfl))⟩
    have hpeeked : t.srv.requestInProgress = (s.pollTimers B p.env).srv.requestInProgress := by
      rw [heq]
      rfl
    rw [hpeeked, pollTimers_requestInProgress, hprogress] at hbusy
    cases hbusy
  | evaluate _ _ _ x _ u hstep heq hevents =>
    refine ⟨⟨ht, fun _ hconfirms => ?_⟩, fun hsent => absurd hsent (hnone (by rw [hevents]; rfl))⟩
    have hu : u.srv.notReadyToReceive = true := by
      refine hstep.deaf_of_confirms hs.pollTimers ?_
      rw [hstep.2]
      rwa [heq] at hconfirms
    rw [heq]
    exact hu

/-- A run of polls between two states. -/
abbrev PollPath (B : Build) : Sys → List Poll → Sys → Prop := Runs.Path (PollStep B)

theorem Silent.path (h : PollPath B s tr t) (hsilent : Silent s) : sentBy tr = [] ∧ Silent t := by
  induction h with
  | nil s => exact ⟨rfl, hsilent⟩
  | @cons s t u p tr hstep _ ih =>
    obtain ⟨hevents, ht⟩ := hsilent.step hstep
    obtain ⟨hsent, hu⟩ := ih ht
    refine ⟨?_, hu⟩
    unfold sentBy at hsent ⊢
    rw [List.flatMap_cons, hsent, hevents]
    rfl

/-- **A server that has confirmed a reset is silent.** -/
theorem ConfirmsDeaf.path (h : PollPath B s tr t) (hinv : ConfirmsDeaf s) :
    ConfirmsDeaf t ∧ ((∃ r ∈ sentBy tr, ConfirmsReset r) → Silent t) := by
  induction h with
  | nil s => exact ⟨hinv, fun ⟨_, hr, _⟩ => by cases hr⟩
  | @cons s t u p tr hstep hpath ih =>
    obtain ⟨ht, hsilent⟩ := hinv.step hstep
    obtain ⟨hu, hrest⟩ := ih ht
    refine ⟨hu, fun ⟨r, hr, hconfirms⟩ => ?_⟩
    have hsplit : sentBy (p :: tr) = sentBy [p] ++ sentBy tr := by simp [sentBy]
    rcases List.mem_append.1 (hsplit ▸ hr) with hfirst | hlater
    · exact ((hsilent ⟨r, hfirst, hconfirms⟩).path hpath).2
    · exact hrest ⟨r, hlater, hconfirms⟩

theorem PollRun.confirmsDeaf (h : PollRun B tr s) : ConfirmsDeaf s := by
  obtain ⟨s₀, ⟨env, fs, rfl⟩, hpath⟩ := h.exists_path
  exact ((confirmsDeaf_udsServerInit env fs).path hpath).1

end EcuUpgrade
