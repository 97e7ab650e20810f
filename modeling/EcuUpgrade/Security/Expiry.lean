import EcuUpgrade.Security.RateLimit
import EcuUpgrade.Server.Silence

/-!
# Timers that have expired

Three timers of the server are armed by rare events: `p2_timer` by a response that is sent, the boot
delay by `UDSServerInit`, and the other delay of `SecurityAccess` by a key that was wrong. They are
compared with the clock by a signed difference of 32-bit numbers, so that a timer that has expired
counts as running again half a period of the clock later, for as long as that. A server that was
idle then does not send the responses to requests, and refuses keys for a delay that is over.

## Main definitions

* `Timer`, `Timer.deadline`: the three timers, and when they expire in a run.
* `Timer.StaysExpired`, `AnswersInTime`, `NotDelayed`: what should be true of timers that have
  expired.
* `Timer.WithinHalf`: a time at which the comparison is right.

## Main results

* `PollStep.timers`: what a poll does with the timers.
* `Tracks`: the timers of a reachable state are the deadlines of the run, truncated.
* `timers_iff`: **when timers that have expired count as expired**, at any time and at every poll.
-/

namespace EcuUpgrade

open ResponseCode Runs WrappedClock

variable {B : Build} {env env₀ : Env} {fs : Path → Option Bytes} {s t : Sys} {p : Poll}
  {tr : List Poll} {x : Exchange}

/-! ### The answers of `SecurityAccess` -/

/-- The request carried a key that was wrong. -/
def Exchange.rejectsKey (x : Exchange) : Bool :=
  x.service = some .securityAccess && x.req.buf 1 % 2 = 0 && x.code = kGeneralReject

/-- The code of a refusal for a delay. -/
def ResponseCode.IsDelay (c : ResponseCode) : Prop :=
  c = kRequiredTimeDelayNotExpired ∨ c = kExceedNumberOfAttempts

instance (c : ResponseCode) : Decidable c.IsDelay := inferInstanceAs (Decidable (_ ∨ _))

/-- What the code that `SecurityAccess` answers says about the delays. -/
structure DelayCode (env : Env) (s : Sys) (c : ResponseCode) (t : Sys) : Prop where
  refused : c.IsDelay ↔
    udsSecurityAccessLevelIsReserved (s.srv.r.recvBuf 1) = false ∧ ¬ DelaysOver env s
  timer : t.srv.secAccessAuthFailTimer =
    if s.srv.r.recvBuf 1 % 2 = 0 ∧ c = kGeneralReject then
      env.udsMillis 2 + bruteForceMitigationAuthFailDelayMs else s.srv.secAccessAuthFailTimer

theorem handleValidateKey_code (s : Sys) (key : Bytes) :
    handleValidateKey s key = kGeneralReject ∨ handleValidateKey s key = kPositiveResponse := by
  unfold handleValidateKey
  split_ifs <;> simp

theorem safeCopy_code (s : Sys) (src : Bytes) : ¬ (s.safeCopy src).1.IsDelay := by
  unfold Sys.safeCopy
  split_ifs
  · exact (by decide : ¬ kPositiveResponse.IsDelay)
  · exact (by decide : ¬ kResponseTooLong.IsDelay)

theorem requestSeed0x27_code (subFunction : UInt8) (record : Bytes) :
    ¬ (requestSeed0x27 env s subFunction record).1.IsDelay := by
  have hseed : ∀ u : Sys, ¬ (handleRequestSeed env u).1.IsDelay := by
    intro u
    unfold handleRequestSeed
    split
    · exact (by decide : ¬ kGeneralReject.IsDelay)
    · exact safeCopy_code _ _
  unfold requestSeed0x27
  dsimp only
  split_ifs
  · exact safeCopy_code _ _
  · exact hseed _
  · exact (by decide : ¬ kGeneralProgrammingFailure.IsDelay)
  · exact (by decide : ¬ kPositiveResponse.IsDelay)

theorem sendKey0x27_delayCode (subFunction : UInt8) (record : Bytes) :
    ¬ (sendKey0x27 env s subFunction record).1.IsDelay ∧
      (sendKey0x27 env s subFunction record).2.srv.secAccessAuthFailTimer =
        if (sendKey0x27 env s subFunction record).1 = kGeneralReject then
          env.udsMillis 2 + bruteForceMitigationAuthFailDelayMs
        else s.srv.secAccessAuthFailTimer := by
  have hcode := handleValidateKey_code
    (s.emitEvent (.secAccessValidateKey (subFunction - 1) record)) record
  unfold sendKey0x27
  dsimp only
  split_ifs with hkey hreject hreject
  · rw [Sys.negativeResponse_fst, hcode.resolve_right hkey]
    exact ⟨by decide, rfl⟩
  · exact absurd (hcode.resolve_right hkey) hreject
  · cases hreject
  · exact ⟨(by decide : ¬ kPositiveResponse.IsDelay), rfl⟩

/-- **What the code that `SecurityAccess` answers says about the delays.** -/
theorem securityAccess0x27_delayCode (env : Env) (s : Sys) :
    DelayCode env s (securityAccess0x27 env s).1 (securityAccess0x27 env s).2 := by
  unfold securityAccess0x27
  dsimp only
  split_ifs with hreserved hboot hfail heven
  · refine ⟨iff_of_false ?_ (by simp [hreserved]), ?_⟩
    · exact (by decide : ¬ kIncorrectMessageLengthOrInvalidFormat.IsDelay)
    · rw [Sys.negativeResponse_fst, if_neg (by simp)]
      rfl
  · refine ⟨iff_of_true (.inl rfl) ⟨by simpa using hreserved, ?_⟩, ?_⟩
    · exact fun hover => by simp [hover.1] at hboot
    · rw [Sys.negativeResponse_fst, if_neg (by simp)]
      rfl
  · refine ⟨iff_of_true (.inr rfl) ⟨by simpa using hreserved, ?_⟩, ?_⟩
    · exact fun hover => by simp [hover.2] at hfail
    · rw [Sys.negativeResponse_fst, if_neg (by simp)]
      rfl
  · refine ⟨iff_of_false (sendKey0x27_delayCode _ _).1 fun h => h.2 ?_, ?_⟩
    · exact ⟨by simpa using hboot, by simpa using hfail⟩
    · simp only [heven, true_and]
      exact (sendKey0x27_delayCode _ _).2
  · refine ⟨iff_of_false (requestSeed0x27_code _ _) fun h => h.2 ?_, ?_⟩
    · exact ⟨by simpa using hboot, by simpa using hfail⟩
    · rw [if_neg fun h => heven h.1]
      exact requestSeed0x27_same (k := .authFailTimer) (by simp) _ _

/-! ### Steps -/

theorem ServerStep.isDelay_iff (h : ServerStep B s x t) (hx : x.service = some .securityAccess) :
    x.code.IsDelay ↔
      udsSecurityAccessLevelIsReserved (x.req.buf 1) = false ∧ ¬ DelaysOver x.env s := by
  obtain ⟨u, hcall, -⟩ := h.call hx
  have hdelays := (securityAccess0x27_delayCode x.env (s.receive B x.env x.req)).refused
  rwa [Except.ok.inj hcall] at hdelays

theorem ServerStep.authFailTimer (h : ServerStep B s x t) :
    t.srv.secAccessAuthFailTimer = if x.rejectsKey then
      x.env.udsMillis 2 + bruteForceMitigationAuthFailDelayMs
    else s.srv.secAccessAuthFailTimer := by
  by_cases hservice : x.service = some .securityAccess
  · obtain ⟨u, hcall, rfl⟩ := h.call_setSend hservice
    have htimer := (securityAccess0x27_delayCode x.env (s.receive B x.env x.req)).timer
    rw [Except.ok.inj hcall] at htimer
    refine htimer.trans ?_
    simp only [Exchange.rejectsKey, hservice, decide_true, Bool.true_and, Bool.and_eq_true,
      decide_eq_true_eq]
    rfl
  · have hright : x.rejectsKey = false := by simp [Exchange.rejectsKey, hservice]
    have hsame : Component.authFailTimer.Same s t := h.same_of_owner rfl hservice
    rw [hright]
    exact hsame

/-- The timers that are armed by rare events. -/
inductive Timer
  | p2
  | bootDelay
  | authFail

/-- The timer as the server has it. -/
def Timer.value (s : Sys) : Timer → UInt32
  | p2 => s.srv.p2Timer
  | bootDelay => s.srv.secAccessBootDelayTimer
  | authFail => s.srv.secAccessAuthFailTimer

/-- The session timeout and a scheduled reset arm none of the timers. -/
theorem Timer.value_pollTimers (timer : Timer) (env : Env) (s : Sys) :
    timer.value (s.pollTimers B env) = timer.value s := by
  obtain ⟨-, -, -, hp2, hboot, -, -, -⟩ : Component.settings.Same s (s.pollTimers B env) :=
    pollTimers_same (by simp) _ _
  cases timer with
  | p2 => exact hp2
  | bootDelay => exact hboot
  | authFail => exact pollTimers_same (k := .authFailTimer) (by simp) env s

/-- The poll sends a response. -/
def Poll.sends (p : Poll) : Bool := !(sentBy [p]).isEmpty

/-- What a poll does with the timers. -/
structure TimersStep (s : Sys) (p : Poll) (t : Sys) : Prop where
  sends : p.sends =
    (s.srv.requestInProgress && udsTimeAfter (p.env.udsMillis 3) s.srv.p2Timer)
  inProgress : t.srv.requestInProgress =
    (!p.sends && (s.srv.requestInProgress || !p.exchanges.isEmpty))
  p2 : t.srv.p2Timer = if p.sends then p.env.udsMillis 4 + udsServerDefaultP2Ms.toUInt32
    else s.srv.p2Timer
  bootDelay : t.srv.secAccessBootDelayTimer = s.srv.secAccessBootDelayTimer
  authFail : t.srv.secAccessAuthFailTimer = p.exchanges.foldl (fun timer x =>
    if x.rejectsKey then x.env.udsMillis 2 + bruteForceMitigationAuthFailDelayMs else timer)
      s.srv.secAccessAuthFailTimer

theorem PollStep.p2_of_inProgress (hs : Settings s) (h : PollStep B s p t)
    (hprogress : s.srv.requestInProgress = true) :
    p.sends = udsTimeAfter (p.env.udsMillis 3) s.srv.p2Timer ∧
      t.srv.requestInProgress = !p.sends ∧
      t.srv.p2Timer = if p.sends then p.env.udsMillis 4 + udsServerDefaultP2Ms.toUInt32
        else s.srv.p2Timer := by
  have hs' : Settings (s.pollTimers B p.env) := hs.pollTimers
  have hp2 : (s.pollTimers B p.env).srv.p2Timer = s.srv.p2Timer :=
    Timer.p2.value_pollTimers p.env s
  rw [PollStep, udsServerPoll_of_settings hs, if_pos hprogress, hs'.p2Ms, hp2] at h
  cases hover : udsTimeAfter (p.env.udsMillis 3) s.srv.p2Timer with
  | true =>
    rw [hover, if_pos rfl] at h
    obtain ⟨rfl, hevents⟩ := Prod.mk.inj (Except.ok.inj h)
    have hsends : p.sends = true := by
      simp [Poll.sends, sentBy, ← hevents, PollEvent.response]
    rw [hsends]
    exact ⟨rfl, rfl, rfl⟩
  | false =>
    rw [hover, if_neg Bool.false_ne_true] at h
    obtain ⟨rfl, hevents⟩ := Prod.mk.inj (Except.ok.inj h)
    have hsends : p.sends = false := by simp [Poll.sends, sentBy, ← hevents]
    rw [hsends]
    exact ⟨rfl, pollTimers_requestInProgress.trans hprogress, hp2⟩

/-- A poll with a request in progress evaluates none. -/
theorem PollStep.timers_of_inProgress (hs : Settings s) (h : PollStep B s p t)
    (hprogress : s.srv.requestInProgress = true) (hexchanges : p.exchanges = [])
    (hboot : t.srv.secAccessBootDelayTimer = s.srv.secAccessBootDelayTimer)
    (hfail : t.srv.secAccessAuthFailTimer = s.srv.secAccessAuthFailTimer) : TimersStep s p t := by
  obtain ⟨hsends, hprogress', hp2⟩ := h.p2_of_inProgress hs hprogress
  rw [← Bool.true_and (udsTimeAfter _ _), ← hprogress] at hsends
  refine ⟨hsends, ?_, hp2, hboot, ?_⟩
  · rw [hprogress', hprogress, Bool.true_or, Bool.and_true]
  · rw [hexchanges, hfail]
    rfl

/-- A poll without a request in progress sends nothing. -/
theorem TimersStep.of_sends_nothing (hprogress : s.srv.requestInProgress = false)
    (hsends : p.sends = false) (hprogress' : t.srv.requestInProgress = !p.exchanges.isEmpty)
    (hp2 : t.srv.p2Timer = s.srv.p2Timer)
    (hboot : t.srv.secAccessBootDelayTimer = s.srv.secAccessBootDelayTimer)
    (hfail : t.srv.secAccessAuthFailTimer = p.exchanges.foldl (fun timer x =>
      if x.rejectsKey then x.env.udsMillis 2 + bruteForceMitigationAuthFailDelayMs else timer)
        s.srv.secAccessAuthFailTimer) : TimersStep s p t := by
  refine ⟨?_, ?_, ?_, hboot, hfail⟩
  · rw [hsends, hprogress, Bool.false_and]
  · rw [hsends, hprogress, hprogress']
    rfl
  · rw [hsends, hp2]
    rfl

/-- **What a poll does with the timers.** -/
theorem PollStep.timers (hs : Settings s) (h : PollStep B s p t) : TimersStep s p t := by
  have hp2 : (s.pollTimers B p.env).srv.p2Timer = s.srv.p2Timer :=
    Timer.p2.value_pollTimers p.env s
  have hboot : (s.pollTimers B p.env).srv.secAccessBootDelayTimer = s.srv.secAccessBootDelayTimer :=
    Timer.bootDelay.value_pollTimers p.env s
  have hfail : (s.pollTimers B p.env).srv.secAccessAuthFailTimer = s.srv.secAccessAuthFailTimer :=
    Timer.authFail.value_pollTimers p.env s
  have hidle (h : s.srv.requestInProgress = false) :
      (s.pollTimers B p.env).srv.requestInProgress = false := pollTimers_requestInProgress.trans h
  cases h.cases hs with
  | wait hprogress ht hevents =>
    exact h.timers_of_inProgress hs hprogress (by simp [Poll.exchanges, hevents]) (ht ▸ hboot)
      (ht ▸ hfail)
  | answer hprogress ht hevents =>
    obtain ⟨timer, rfl⟩ := ht
    exact h.timers_of_inProgress hs hprogress
      (by simp [Poll.exchanges, hevents, PollEvent.exchange]) hboot hfail
  | deaf hprogress _ ht hevents =>
    have hsends : p.sends = false := by simp [Poll.sends, sentBy, hevents]
    have hexchanges : p.exchanges = [] := by simp [Poll.exchanges, hevents]
    subst ht
    refine .of_sends_nothing hprogress hsends ?_ hp2 hboot ?_
    · rw [hexchanges, hidle hprogress]
      rfl
    · rw [hexchanges]
      exact hfail
  | idle hprogress _ _ ht hevents =>
    have hsends : p.sends = false := by simp [Poll.sends, sentBy, hevents, PollEvent.response]
    have hexchanges : p.exchanges = [] := by simp [Poll.exchanges, hevents, PollEvent.exchange]
    subst ht
    refine .of_sends_nothing hprogress hsends ?_ hp2 hboot ?_
    · rw [hexchanges]
      exact hidle hprogress
    · rw [hexchanges]
      exact hfail
  | evaluate hprogress _ _ x _ u hstep ht hevents =>
    have hsends : p.sends = false := by simp [Poll.sends, sentBy, hevents, PollEvent.response]
    have hexchanges : p.exchanges = [x] := by
      rw [Poll.exchanges, hevents]
      rfl
    obtain ⟨-, -, -, hp2', hboot', -, -, -⟩ :
        Component.settings.Same (s.pollTimers B p.env) u :=
      hstep.same (by simp) (by simp) fun service _ => service.not_touches_settings
    subst ht
    refine .of_sends_nothing hprogress hsends ?_ (hp2'.trans hp2) (hboot'.trans hboot) ?_
    · rw [hexchanges]
      rfl
    · rw [hexchanges, List.foldl_cons, List.foldl_nil, ← hfail]
      exact hstep.authFailTimer

/-! ### Runs -/

namespace Timer

/-- When the timer expires, as `UDSServerInit` arms it. -/
def atBoot (env₀ : Env) : Timer → ℕ
  | p2 => env₀.millis 0 + udsServerDefaultP2Ms.toNat
  | bootDelay => env₀.millis 2 + bruteForceMitigationBootDelayMs.toNat
  | authFail => env₀.millis 3

/-- When the timer expires after a poll that found it to expire at a given time. -/
def rearm (p : Poll) (deadline : ℕ) : Timer → ℕ
  | p2 => if p.sends then p.env.millis 4 + udsServerDefaultP2Ms.toNat else deadline
  | bootDelay => deadline
  | authFail => p.exchanges.foldl (fun deadline x =>
      if x.rejectsKey then x.env.millis 2 + bruteForceMitigationAuthFailDelayMs.toNat
      else deadline) deadline

/-- When the timer expires after a run, in true time. -/
def deadline (env₀ : Env) (tr : List Poll) (timer : Timer) : ℕ :=
  tr.foldl (fun deadline p => timer.rearm p deadline) (timer.atBoot env₀)

theorem deadline_snoc (env₀ : Env) (tr : List Poll) (p : Poll) (timer : Timer) :
    timer.deadline env₀ (tr ++ [p]) = timer.rearm p (timer.deadline env₀ tr) :=
  List.foldl_concat _ _ _ _

end Timer

/-- A request was evaluated in the run, and its response is still to be sent. -/
def awaiting (tr : List Poll) : Bool :=
  tr.foldl (fun awaits p => !p.sends && (awaits || !p.exchanges.isEmpty)) false

/-- The timers of a reachable state are the deadlines of the run, as the clock shows them. -/
structure Tracks (env₀ : Env) (tr : List Poll) (s : Sys) : Prop where
  settings : Settings s
  awaits : s.srv.requestInProgress = awaiting tr
  value : ∀ timer : Timer, timer.value s = UInt32.ofNat (timer.deadline env₀ tr)

theorem udsMillis_add (env : Env) (k : ℕ) (delay : UInt32) :
    env.udsMillis k + delay = UInt32.ofNat (env.millis k + delay.toNat) := by
  rw [UInt32.ofNat_add, UInt32.ofNat_toNat]
  rfl

theorem tracks_udsServerInit (env₀ : Env) (fs : Path → Option Bytes) :
    Tracks env₀ [] (udsServerInit env₀ fs) := by
  refine ⟨settings_udsServerInit env₀ fs, rfl, fun timer => ?_⟩
  cases timer with
  | p2 => exact udsMillis_add env₀ 0 udsServerDefaultP2Ms.toUInt32
  | bootDelay => exact udsMillis_add env₀ 2 bruteForceMitigationBootDelayMs
  | authFail => rfl

theorem Tracks.step (h : Tracks env₀ tr s) (hstep : PollStep B s p t) :
    Tracks env₀ (tr ++ [p]) t := by
  have htimers := hstep.timers h.settings
  refine ⟨h.settings.pollStep hstep, ?_, fun timer => ?_⟩
  · rw [htimers.inProgress, h.awaits, awaiting, awaiting, List.foldl_concat]
  · rw [Timer.deadline_snoc]
    have hvalue := h.value timer
    cases timer with
    | p2 =>
      show t.srv.p2Timer = _
      rw [htimers.p2, Timer.rearm]
      split_ifs
      · exact udsMillis_add p.env 4 udsServerDefaultP2Ms.toUInt32
      · exact hvalue
    | bootDelay => exact htimers.bootDelay.trans hvalue
    | authFail =>
      show t.srv.secAccessAuthFailTimer = _
      rw [htimers.authFail, show s.srv.secAccessAuthFailTimer = _ from hvalue, Timer.rearm]
      refine List.foldl_hom UInt32.ofNat fun deadline x => ?_
      split_ifs
      · exact udsMillis_add x.env 2 bruteForceMitigationAuthFailDelayMs
      · rfl

theorem Tracks.of_run (h : Run (· = udsServerInit env₀ fs) (PollStep B) tr s) :
    Tracks env₀ tr s :=
  Run.invariant (P := fun tr s => Tracks env₀ tr s)
    (fun s hs => by
      rw [hs]
      exact tracks_udsServerInit env₀ fs)
    (fun _ _ _ _ _ ih hstep => ih.step hstep) h

/-! ### Timers that have expired -/

/-- A timer that has expired counts as expired at the time. -/
def Timer.StaysExpired (env₀ : Env) (tr : List Poll) (s : Sys) (timer : Timer) (now : ℕ) : Prop :=
  timer.deadline env₀ tr < now → udsTimeAfter (UInt32.ofNat now) (timer.value s) = true

/-- A poll after a request was evaluated sends the response when `p2_timer` has expired. -/
def AnswersInTime (env₀ : Env) (tr : List Poll) (p : Poll) : Prop :=
  awaiting tr = true → Timer.p2.deadline env₀ tr < p.env.millis 3 → p.sends = true

/-- `SecurityAccess` is not refused for a delay when both delays have expired. -/
def NotDelayed (env₀ : Env) (tr : List Poll) (p : Poll) : Prop :=
  ∀ x ∈ p.exchanges, x.service = some .securityAccess →
    Timer.bootDelay.deadline env₀ tr < x.env.millis 0 →
    Timer.authFail.deadline env₀ tr < x.env.millis 1 → ¬ x.code.IsDelay

/-- The timer has not expired at the time, or by at most half a period of the clock, modulo the
period. -/
def Timer.WithinHalf (env₀ : Env) (tr : List Poll) (timer : Timer) (now : ℕ) : Prop :=
  timer.deadline env₀ tr < now → (now - timer.deadline env₀ tr - 1) % 2 ^ 32 < 2 ^ 31

theorem udsTimeAfter_iff {now deadline : ℕ} (h : deadline < now) :
    udsTimeAfter (UInt32.ofNat now) (UInt32.ofNat deadline) = true ↔
      (now - deadline - 1) % 2 ^ 32 < 2 ^ 31 := by
  rw [udsTimeAfter_eq_after]
  exact (after_iff (w := 32) (by decide) (by omega)).trans (and_iff_right h)

theorem Tracks.staysExpired_iff (h : Tracks env₀ tr s) (timer : Timer) (now : ℕ) :
    timer.StaysExpired env₀ tr s now ↔ timer.WithinHalf env₀ tr now := by
  unfold Timer.StaysExpired Timer.WithinHalf
  rw [h.value timer]
  exact forall_congr' udsTimeAfter_iff

theorem PollStep.isDelay_iff (hs : Settings s) (h : PollStep B s p t) (hx : x ∈ p.exchanges)
    (hservice : x.service = some .securityAccess) :
    x.code.IsDelay ↔
      udsSecurityAccessLevelIsReserved (x.req.buf 1) = false ∧ ¬ DelaysOver x.env s := by
  have hboot : (s.pollTimers B p.env).srv.secAccessBootDelayTimer = s.srv.secAccessBootDelayTimer :=
    Timer.bootDelay.value_pollTimers p.env s
  have hfail : (s.pollTimers B p.env).srv.secAccessAuthFailTimer = s.srv.secAccessAuthFailTimer :=
    Timer.authFail.value_pollTimers p.env s
  rcases h.exchanges hs with ⟨hnone, -⟩ | ⟨y, u, hy, hstep, -⟩
  · rw [hnone] at hx
    cases hx
  · rw [hy, List.mem_singleton] at hx
    subst hx
    rw [hstep.isDelay_iff hservice, DelaysOver, hboot, hfail]
    rfl

/-- **When timers that have expired count as expired**: at a time that is after the deadline by at
most half a period of the clock, modulo the period. A poll sends the response in time, and
`SecurityAccess` is not refused for a delay that is over, when that is so of the readings. -/
theorem timers_iff (h : Run (· = udsServerInit env₀ fs) (PollStep B) tr s)
    (hstep : PollStep B s p t) :
    (∀ (timer : Timer) (now : ℕ),
      timer.StaysExpired env₀ tr s now ↔ timer.WithinHalf env₀ tr now) ∧
    (AnswersInTime env₀ tr p ↔
      (awaiting tr = true → Timer.p2.WithinHalf env₀ tr (p.env.millis 3))) ∧
    (NotDelayed env₀ tr p ↔ ∀ x ∈ p.exchanges, x.service = some .securityAccess →
      udsSecurityAccessLevelIsReserved (x.req.buf 1) = false →
      Timer.bootDelay.deadline env₀ tr < x.env.millis 0 →
      Timer.authFail.deadline env₀ tr < x.env.millis 1 →
      Timer.bootDelay.WithinHalf env₀ tr (x.env.millis 0) ∧
        Timer.authFail.WithinHalf env₀ tr (x.env.millis 1)) := by
  have htracks := Tracks.of_run h
  refine ⟨htracks.staysExpired_iff, ?_, ?_⟩
  · rw [← htracks.staysExpired_iff, AnswersInTime, (hstep.timers htracks.settings).sends,
      htracks.awaits]
    refine forall_congr' fun hawaits => ?_
    rw [hawaits, Bool.true_and]
    exact Iff.rfl
  · refine forall₃_congr fun x hx hservice => ?_
    rw [hstep.isDelay_iff htracks.settings hx hservice, ← htracks.staysExpired_iff,
      ← htracks.staysExpired_iff]
    constructor
    · intro hnot hreserved hboot hfail
      have hover : DelaysOver x.env s := not_not.1 fun h => hnot hboot hfail ⟨hreserved, h⟩
      exact ⟨fun _ => hover.1, fun _ => hover.2⟩
    · rintro hboth hboot hfail ⟨hreserved, hnot⟩
      obtain ⟨hboot', hfail'⟩ := hboth hreserved hboot hfail
      exact hnot ⟨hboot' hboot, hfail' hfail⟩

/-- The request for a seed, two seconds after start-up: the next poll sends the response. -/
theorem timers_iff_seed : ∃ p q : Poll, awaiting [p] = true ∧
    Timer.p2.deadline (.fair 0) [p] < q.env.millis 3 ∧ AnswersInTime (.fair 0) [p] q := by
  let request := Request.ofBytes [0x27, 0x01] (by decide) fun _ => 0
  obtain ⟨events, s, hp, hnext⟩ := exists_pollStep ⟨65535, .test⟩
    (udsServerInit (.fair 0) fun _ => none) (.fair 2000) (.fair 2000) request
    (fun p s => awaiting [p] && Timer.p2.deadline (.fair 0) [p] = 50 &&
      (s.udsServerPoll ⟨65535, .test⟩ (.fair 2000) (.fair 2000) request).toOption.isSome)
    (by decide +kernel)
  simp only [Bool.and_eq_true, decide_eq_true_eq] at hnext
  obtain ⟨⟨hawaiting, hdeadline⟩, hsome⟩ := hnext
  obtain ⟨events', t, hq, -⟩ := exists_pollStep _ s _ _ _ (fun _ _ => true)
    (by simpa [Option.isSome_iff_exists] using hsome)
  have hstart : Run (· = udsServerInit (.fair 0) fun _ => none) (PollStep ⟨65535, .test⟩) [] _ :=
    .start rfl
  refine ⟨⟨.fair 2000, .fair 2000, request, events⟩, _, hawaiting, ?_,
    (timers_iff (hstart.snoc hp) hq).2.1.2 fun _ _ => ?_⟩
  · rw [hdeadline]
    exact (by decide : 50 < 2000)
  · rw [List.nil_append, hdeadline]
    exact (by decide : (2000 - 50 - 1) % 2 ^ 32 < 2 ^ 31)

/-- The time of the first request: 1 ms more than half a period after the boot delay. -/
abbrev lateTime : ℕ := 2 ^ 31 + 1001

/-- The server that was idle for so long refuses the request for a seed for the boot delay, and the
next poll does not send this response. -/
theorem not_staysExpired : ∃ p q s t,
    Run (· = udsServerInit (.fair 0) fun _ => none) (PollStep ⟨65535, .test⟩) [p] s ∧
    PollStep ⟨65535, .test⟩ s q t ∧
    Nondecreasing (.fair 0 :: [p, q].flatMap fun p => [p.env, p.evalEnv]) ∧
    ¬ NotDelayed (.fair 0) [] p ∧ ¬ AnswersInTime (.fair 0) [p] q ∧
    ¬ Timer.p2.StaysExpired (.fair 0) [p] s lateTime := by
  let request := Request.ofBytes [0x27, 0x01] (by decide) fun _ => 0
  obtain ⟨events, s, hp, hnext⟩ := exists_pollStep ⟨65535, .test⟩
    (udsServerInit (.fair 0) fun _ => none) (.fair lateTime) (.fair lateTime) request
    (fun p s => awaiting [p] && Timer.p2.deadline (.fair 0) [p] = 50 &&
      p.exchanges.any (fun x => x.service = some .securityAccess && x.env.millis 0 = lateTime &&
        x.env.millis 1 = lateTime && decide x.code.IsDelay) &&
      !udsTimeAfter (UInt32.ofNat lateTime) s.srv.p2Timer &&
      (s.udsServerPoll ⟨65535, .test⟩ (.fair lateTime) (.fair lateTime) request).toOption.any
        fun r => !(Poll.mk (.fair lateTime) (.fair lateTime) request r.2).sends)
    (by decide +kernel)
  simp only [Bool.and_eq_true, decide_eq_true_eq, List.any_eq_true, Bool.not_eq_true'] at hnext
  obtain ⟨⟨⟨⟨hawaiting, hdeadline⟩, x, hx, ⟨⟨hservice, hboot⟩, hfail⟩, hdelay⟩, hafter⟩, hq⟩ :=
    hnext
  obtain ⟨events', t, hq, hsends⟩ := exists_pollStep _ s _ _ _ (fun p _ => !p.sends) hq
  have hlate : 50 < lateTime := by decide
  have hstart : Run (· = udsServerInit (.fair 0) fun _ => none) (PollStep ⟨65535, .test⟩) [] _ :=
    .start rfl
  refine ⟨_, _, s, t, hstart.snoc hp, hq, ?_, fun hclaim => ?_, fun hclaim => ?_, fun hclaim => ?_⟩
  · simp [Nondecreasing, Env.fair, monotone_const]
  · refine hclaim x hx hservice ?_ ?_ hdelay
    · rw [hboot]
      decide
    · rw [hfail]
      decide
  · have hanswer := hclaim hawaiting (hdeadline ▸ hlate)
    rw [hanswer] at hsends
    cases hsends
  · have hcounts := hclaim (hdeadline ▸ hlate)
    exact Bool.false_ne_true (hafter.symm.trans hcounts)

end EcuUpgrade
