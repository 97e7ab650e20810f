import EcuUpgrade.Security.Installation
import EcuUpgrade.Security.Unlock
import EcuUpgrade.Server.Dependence
import Mathlib.Data.List.Induction

/-!
# What the lock protects

`SecurityAccess` keeps the level it has unlocked in `securityLevel`. The level is that of the last
key that was answered positively, and zero if there was none. No other service looks at it, those
that write files and start the upgrade included: they do the same in every level.

## Main definitions

* `unlockedLevel`: the level unlocked by the last key of a history.
* `Request.Protected`: the requests that write files or start the upgrade.

## Main results

* `ServerStep.securityLevel`: how an exchange changes the level.
* `lock_is_ignored`: when the level is zero, and that no service but `SecurityAccess` depends on it.
* `accepted_while_locked`: a file is opened while the level is zero.
-/

namespace EcuUpgrade

open ResponseCode Runs

variable {B : Build} {env : Env} {s t : Sys} {q : Request} {x : Exchange} {tr : List Exchange}
  {level : UInt8}

/-! ### The level -/

/-- The level that the last positively answered key of a history has unlocked, and zero if there is
none. -/
def unlockedLevel (tr : List Exchange) : UInt8 :=
  tr.foldl (fun level x => if x.Unlocks (x.req.buf 1 - 1) then x.req.buf 1 - 1 else level) 0

theorem unlockedLevel_snoc : unlockedLevel (tr ++ [x]) =
    if x.Unlocks (x.req.buf 1 - 1) then x.req.buf 1 - 1 else unlockedLevel tr := by
  simp [unlockedLevel]

/-- No key unlocks the level zero. -/
theorem Exchange.Unlocks.ne_zero (h : x.Unlocks level) : level ≠ 0 := by
  obtain ⟨-, heven, rfl⟩ := h
  intro hzero
  have hone : x.req.buf 1 = 1 := UInt8.sub_eq_iff_eq_add.1 hzero
  rw [hone] at heven
  exact absurd heven (by decide)

/-- A key sets the level if it is answered positively. -/
theorem sendKey0x27_level (env : Env) (s : Sys) (subFunction : UInt8) (record : Bytes) :
    ((sendKey0x27 env s subFunction record).1 = kPositiveResponse ∧
        (sendKey0x27 env s subFunction record).2.srv.securityLevel = subFunction - 1) ∨
      ((sendKey0x27 env s subFunction record).1 ≠ kPositiveResponse ∧
        (sendKey0x27 env s subFunction record).2.srv.securityLevel = s.srv.securityLevel) := by
  rw [sendKey0x27_eq]
  split_ifs with hkey
  · exact .inl ⟨rfl, rfl⟩
  · exact .inr ⟨by simp, by simp [Sys.negativeResponse, Sys.setSend, Sys.setAuthFailTimer,
      Sys.emitEvent, Sys.emit]⟩

/-- **Only a key that is answered positively changes the level.** -/
theorem ServerStep.securityLevel (h : ServerStep B s x t) : t.srv.securityLevel =
    if x.Unlocks (x.req.buf 1 - 1) then x.req.buf 1 - 1 else s.srv.securityLevel := by
  by_cases hservice : x.service = some .securityAccess
  swap
  · rw [if_neg fun hx => hservice hx.1.1]
    exact h.same_of_owner (k := .securityLevel) rfl hservice
  obtain ⟨u, hcall, rfl⟩ := h.call_setSend hservice
  have hcall' : securityAccess0x27 x.env (s.receive B x.env x.req) = (x.code, u) :=
    Except.ok.inj hcall
  by_cases hpass : passesChecks s x.env x.req
  swap
  · obtain ⟨err, herr, heq⟩ := securityAccess0x27_of_not_passes (B := B) hpass
    obtain ⟨hcode, rfl⟩ := Prod.mk.inj (hcall'.symm.trans heq)
    rw [if_neg fun hx => herr (hcode.symm.trans hx.1.2)]
    rfl
  rw [securityAccess0x27_of_passes hpass] at hcall'
  split_ifs at hcall' with heven
  · have hlevel := sendKey0x27_level x.env (s.securityAccess B x.env x.req) (x.req.buf 1) x.req.key
    rw [hcall'] at hlevel
    rcases hlevel with ⟨hcode, hlevel⟩ | ⟨hcode, hlevel⟩
    · rw [if_pos ⟨⟨hservice, hcode⟩, heven, rfl⟩]
      exact hlevel
    · rw [if_neg fun hx => hcode hx.1.2]
      exact hlevel
  · have hseed : Component.securityLevel.Same (s.securityAccess B x.env x.req)
        (requestSeed0x27 x.env (s.securityAccess B x.env x.req) (x.req.buf 1) x.req.key).2 :=
      requestSeed0x27_same (by simp) _ _
    rw [hcall'] at hseed
    rw [if_neg fun hx => heven hx.2.1]
    exact hseed

/-- The level of a reachable state. -/
theorem ServerRun.securityLevel (h : ServerRun B tr s) :
    s.srv.securityLevel = unlockedLevel tr := by
  refine Run.invariant (P := fun tr s => s.srv.securityLevel = unlockedLevel tr) ?_ ?_ h
  · rintro s ⟨env, fs, rfl⟩
    rfl
  · intro tr s x t _ hlevel hstep
    rw [hstep.securityLevel, unlockedLevel_snoc, hlevel]

/-- The level is non-zero after a key was answered positively, and only then. -/
theorem unlockedLevel_ne_zero_iff (tr : List Exchange) :
    unlockedLevel tr ≠ 0 ↔ ∃ x ∈ tr, ∃ level, x.Unlocks level := by
  induction tr using List.reverseRecOn with
  | nil => simp [unlockedLevel]
  | append_singleton tr x ih =>
    rw [unlockedLevel_snoc]
    by_cases hx : x.Unlocks (x.req.buf 1 - 1)
    · rw [if_pos hx]
      exact iff_of_true hx.ne_zero ⟨x, by simp, _, hx⟩
    · have hnone : ¬∃ level, x.Unlocks level := fun ⟨level, hlevel⟩ => hx (hlevel.2.2 ▸ hlevel)
      rw [if_neg hx, ih]
      simp only [List.mem_append, List.mem_singleton, or_and_right, exists_or, exists_eq_left,
        hnone, or_false]

/-! ### Ignoring the level -/

/-- In another level, the process is the same apart from it. -/
theorem same_setSecurityLevel_left {k : Component} (h : k ≠ .securityLevel) (level : UInt8) :
    k.Same (s.setSecurityLevel level) t ↔ k.Same s t := by
  cases k <;> first | exact absurd rfl h | exact Iff.rfl

/-- **No service but `SecurityAccess` depends on the level.** -/
theorem processRequest_setSecurityLevel (hq : getServiceForSID (q.buf 0) ≠ some .securityAccess)
    (level : UInt8) : processRequest B env (s.setSecurityLevel level) q =
      (processRequest B env s q).map fun p => (p.1, p.2.setSecurityLevel level) := by
  have halike : AlikeResult (fun k => k ≠ .securityLevel) (fun _ => True) s.log s.log
      (processRequest B env s q) (processRequest B env (s.setSecurityLevel level) q) := by
    refine processRequest_alike (t := s.setSecurityLevel level) (fun k hk => ?_) ?_ ?_
    · exact (Component.same_setSecurityLevel hk level).2 (.refl k s)
    · exact ⟨rfl, rfl, rfl, rfl, rfl⟩
    · rintro service hservice k hreads rfl
      cases service <;> simp_all [UDSService.Reads]
  cases hs : processRequest B env s q with
  | error e =>
    rw [hs] at halike
    exact halike.eq_error
  | ok p =>
    obtain ⟨c, u⟩ := p
    rw [hs] at halike
    obtain ⟨⟨c', u'⟩, ht, hout⟩ := halike.exists_ok
    obtain ⟨effects, hlog, hlog'⟩ := hout.alike.effects
    have hcode : c' = c := hout.code
    have hlevel : u'.srv.securityLevel = level := by
      refine evaluateServiceResponse_same (k := .securityLevel) ht fun service hservice => ?_
      cases service <;> simp_all [UDSService.Touches]
    have hu : u' = u.setSecurityLevel level := by
      refine Sys.eq_of_same (fun k => ?_) hout.sent (hlog'.trans hlog.symm)
      by_cases hk : k = .securityLevel
      · rw [hk]
        exact hlevel
      · exact (same_setSecurityLevel_left hk level).2 (hout.alike.same k hk)
    rw [ht, hcode, hu]
    rfl

/-- The requests that write files or start the upgrade. -/
def Request.Protected (q : Request) : Prop :=
  getServiceForSID (q.buf 0) = some .requestFileTransfer ∨
    getServiceForSID (q.buf 0) = some .transferData ∨
    getServiceForSID (q.buf 0) = some .writeDataByIdentifier ∧
      word16 (q.buf 1) (q.buf 2) = 0xF15A ∨
    q.StartsUpgrade

/-- **The lock and what it protects.** In every reachable state, the level is non-zero if and only
if a key was answered positively before. Whatever the level is, every request for a service other
than `SecurityAccess` is evaluated in the same way, with the same answer, the same effects and the
same state apart from the level. -/
theorem lock_is_ignored (h : ServerRun B tr s) :
    (s.srv.securityLevel ≠ 0 ↔ ∃ x ∈ tr, ∃ level, x.Unlocks level) ∧
      ∀ env q level, getServiceForSID (q.buf 0) ≠ some .securityAccess →
        processRequest B env (s.setSecurityLevel level) q =
          (processRequest B env s q).map fun p => (p.1, p.2.setSecurityLevel level) := by
  refine ⟨?_, fun env q level hq => processRequest_setSecurityLevel hq level⟩
  rw [ServerRun.securityLevel h]
  exact unlockedLevel_ne_zero_iff tr

/-- After start-up no key was answered, and a file is opened as it would be in the level `1`. -/
theorem lock_is_ignored_addFile :
    (udsServerInit (.fair 0) fun _ => none).srv.securityLevel = 0 ∧
      processRequest ⟨65535, .test⟩ (.fair 0)
          ((udsServerInit (.fair 0) fun _ => none).setSecurityLevel 1)
          (.ofBytes [0x38, 1, 0, 1, 0x61, 0, 1, 3, 3] (by simp) fun _ => 0) =
        (processRequest ⟨65535, .test⟩ (.fair 0) (udsServerInit (.fair 0) fun _ => none)
          (.ofBytes [0x38, 1, 0, 1, 0x61, 0, 1, 3, 3] (by simp) fun _ => 0)).map
            fun p => (p.1, p.2.setSecurityLevel 1) := by
  have hlock := lock_is_ignored (B := ⟨65535, .test⟩) (.start ⟨.fair 0, fun _ => none, rfl⟩)
  exact ⟨not_not.1 fun hlevel => by simpa using hlock.1.1 hlevel, hlock.2 _ _ 1 (by decide)⟩

/-- A file is opened after start-up, although no key was sent. -/
theorem accepted_while_locked :
    ¬∀ (B : Build) (tr : List Exchange) (s : Sys) (env : Env) (q : Request) (c : ResponseCode)
        (t : Sys), ServerRun B tr s → q.Protected →
      processRequest B env s q = .ok (c, t) → s.srv.securityLevel = 0 →
        c ≠ kPositiveResponse ∧ t.fs = s.fs ∧ Component.transfer.Same s t := by
  intro hclaim
  have hprocess : processRequest ⟨65535, .test⟩ (.fair 0) (udsServerInit (.fair 0) fun _ => none)
      (.ofBytes [0x38, 1, 0, 1, 0x61, 0, 1, 3, 3] (by simp) fun _ => 0) =
        .ok (kPositiveResponse, _) := rfl
  exact (hclaim _ _ _ _ _ _ _ (.start ⟨.fair 0, fun _ => none, rfl⟩) (.inl (by decide)) hprocess
    rfl).1 rfl

end EcuUpgrade
