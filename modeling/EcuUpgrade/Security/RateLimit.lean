import EcuUpgrade.Lib.WrappedClock
import EcuUpgrade.Server.Effects

/-!
# The delay between two keys

`SecurityAccess` does nothing before the boot delay is over, and nothing in the delay after a key
that was wrong. Both times are compared as 32-bit numbers, with a signed difference. Whatever the
clock shows, and however often it wraps around, the delays are kept in true time.

## Main definitions

* `Observed`, `ObservedStep`: exchanges with the effects they had.
* `Observed.CallsRequestSeed`, `Observed.CallsValidateKey`: the handlers that were called.
* `Nondecreasing`: the clock.

## Main results

* `exists_observed`: every run can be observed.
* `securityAccess0x27_case`: when the handlers are called, and what becomes of the timer.
* `key_guessing_is_limited`: the delays.
-/

namespace EcuUpgrade

open ResponseCode Runs WrappedClock

variable {B : Build} {env : Env} {fs : Path → Option Bytes} {s t : Sys} {x : Exchange}

/-! ### The clock -/

theorem udsTimeAfter_eq_after (a b : UInt32) : udsTimeAfter a b = after a.toBitVec b.toBitVec := by
  rw [Bool.eq_iff_iff, udsTimeAfter, after, decide_eq_true_iff, ← BitVec.slt_zero_eq_msb]
  exact Iff.rfl

/-- A time that the server takes to be after the end of a delay is after it. -/
theorem lt_of_udsTimeAfter {start delay now : ℕ} (hdelay : delay < 2 ^ 31) (hstart : start ≤ now)
    (h : udsTimeAfter (UInt32.ofNat now) (UInt32.ofNat start + UInt32.ofNat delay) = true) :
    start + delay < now := by
  have hdeadline : (UInt32.ofNat start + UInt32.ofNat delay).toBitVec =
      reading 32 (start + delay) := (reading_add 32 start delay).symm
  rw [udsTimeAfter_eq_after, hdeadline] at h
  exact lt_of_after (by decide) (by omega) h

/-- The readings of a clock that never goes back: while a request is evaluated, and from one request
to the next. -/
def Nondecreasing (envs : List Env) : Prop :=
  (∀ env ∈ envs, Monotone env.millis) ∧
    envs.Pairwise fun env env' => ∀ i j, env.millis i ≤ env'.millis j

/-! ### Calls of the handlers -/

/-- An exchange, with the effects it had. -/
structure Observed where
  exchange : Exchange
  effects : List Effect

/-- The evaluation of a request, with its effects. -/
def ObservedStep (B : Build) (s : Sys) (x : Observed) (t : Sys) : Prop :=
  ServerStep B s x.exchange t ∧ t.log = s.log ++ x.effects

/-- `HandleRequestSeed` was called. -/
def Observed.CallsRequestSeed (x : Observed) : Prop :=
  ∃ level record, .emit (.secAccessRequestSeed level record) ∈ x.effects

/-- `HandleValidateKey` was called. -/
def Observed.CallsValidateKey (x : Observed) : Prop :=
  ∃ level key, .emit (.secAccessValidateKey level key) ∈ x.effects

/-- `HandleValidateKey` was called and failed; its code is the answer. -/
def Observed.FailsKey (x : Observed) : Prop :=
  x.CallsValidateKey ∧ x.exchange.code ≠ kPositiveResponse

/-- The exchanges of every run have effects. -/
theorem exists_observed {start : Sys → Prop} {tr : List Exchange}
    (h : Run start (ServerStep B) tr s) : ∃ observed,
      Run start (ObservedStep B) observed s ∧ observed.map Observed.exchange = tr := by
  induction h with
  | start h => exact ⟨[], .start h, rfl⟩
  | @snoc tr s t x _ hstep ih =>
    obtain ⟨observed, hobserved, rfl⟩ := ih
    obtain ⟨effects, hlog, -⟩ := hstep.appends
    exact ⟨observed ++ [⟨x, effects⟩], hobserved.snoc ⟨hstep, hlog⟩, by simp⟩

theorem handleRequestSeed_log (env : Env) (s : Sys) : (handleRequestSeed env s).2.log = s.log := by
  unfold handleRequestSeed
  split
  · rfl
  · exact log_safeCopy _ _

/-- The delays that `SecurityAccess` checks are over. -/
def DelaysOver (env : Env) (s : Sys) : Prop :=
  udsTimeAfter (env.udsMillis 0) s.srv.secAccessBootDelayTimer = true ∧
    udsTimeAfter (env.udsMillis 1) s.srv.secAccessAuthFailTimer = true

/-- What `SecurityAccess` does: it calls no handler, or it asks for a seed, or it has a key
validated. Only a key that is wrong sets the timer. -/
inductive SecurityAccessCase (env : Env) (s : Sys) (c : ResponseCode) (t : Sys) : Prop
  | refused (hlog : t.log = s.log) (htimer : Component.authFailTimer.Same s t)
  | seed (hover : DelaysOver env s) (level : UInt8) (record : Bytes)
      (hlog : t.log = s.log ++ [.emit (.secAccessRequestSeed level record)])
      (htimer : Component.authFailTimer.Same s t)
  | key (hover : DelaysOver env s) (level : UInt8) (key : Bytes)
      (hlog : t.log = s.log ++ [.emit (.secAccessValidateKey level key)])
      (hright : c = kPositiveResponse → Component.authFailTimer.Same s t)
      (hwrong : c ≠ kPositiveResponse → t.srv.secAccessAuthFailTimer =
        env.udsMillis 2 + bruteForceMitigationAuthFailDelayMs)

theorem sendKey0x27_case (hover : DelaysOver env s) (subFunction : UInt8) (record : Bytes) :
    SecurityAccessCase env s (sendKey0x27 env s subFunction record).1
      (sendKey0x27 env s subFunction record).2 := by
  unfold sendKey0x27
  dsimp only
  split_ifs with hkey
  · exact .key hover _ _ rfl (fun h => absurd h hkey) fun _ => rfl
  · exact .key hover _ _ rfl (fun _ => rfl) fun h => absurd rfl h

theorem requestSeed0x27_case (hover : DelaysOver env s) (subFunction : UInt8) (record : Bytes) :
    SecurityAccessCase env s (requestSeed0x27 env s subFunction record).1
      (requestSeed0x27 env s subFunction record).2 := by
  have htimer : Component.authFailTimer.Same s (handleRequestSeed env
      (s.emitEvent (.secAccessRequestSeed subFunction record))).2 :=
    handleRequestSeed_same (k := .authFailTimer) (by simp)
  have hlog := handleRequestSeed_log env (s.emitEvent (.secAccessRequestSeed subFunction record))
  unfold requestSeed0x27
  dsimp only
  split_ifs
  · exact .refused (log_safeCopy _ _) ((Component.same_safeCopy _).2 (.refl _ s))
  · exact .seed hover _ _ hlog htimer
  · exact .seed hover _ _ hlog htimer
  · exact .seed hover _ _ hlog htimer

/-- The effects and the delays are the same in two states. -/
def SameDelays (s t : Sys) : Prop :=
  t.log = s.log ∧ t.srv.secAccessBootDelayTimer = s.srv.secAccessBootDelayTimer ∧
    t.srv.secAccessAuthFailTimer = s.srv.secAccessAuthFailTimer

theorem SecurityAccessCase.congr {c : ResponseCode} {s' t' : Sys}
    (h : SecurityAccessCase env s c t) (hs : SameDelays s' s) (ht : SameDelays t t') :
    SecurityAccessCase env s' c t' := by
  obtain ⟨hslog, hsboot, hsfail⟩ := hs
  obtain ⟨htlog, -, htfail⟩ := ht
  have hover' (hover : DelaysOver env s) : DelaysOver env s' := by
    rwa [DelaysOver, hsboot, hsfail] at hover
  have htimer' (htimer : Component.authFailTimer.Same s t) : Component.authFailTimer.Same s' t' :=
    htfail.trans (Eq.trans htimer hsfail)
  cases h with
  | refused hlog htimer => exact .refused (htlog.trans (hlog.trans hslog)) (htimer' htimer)
  | seed hover level record hlog htimer =>
    exact .seed (hover' hover) level record (by rw [htlog, hlog, hslog]) (htimer' htimer)
  | key hover level key hlog hright hwrong =>
    exact .key (hover' hover) level key (by rw [htlog, hlog, hslog])
      (fun h => htimer' (hright h)) fun h => htfail.trans (hwrong h)

/-- **When the handlers are called**, and what becomes of the timer. -/
theorem securityAccess0x27_case (env : Env) (s : Sys) :
    SecurityAccessCase env s (securityAccess0x27 env s).1 (securityAccess0x27 env s).2 := by
  have hover (hboot : ¬(!udsTimeAfter (env.udsMillis 0) s.srv.secAccessBootDelayTimer) = true)
      (hfail : ¬(!udsTimeAfter (env.udsMillis 1) s.srv.secAccessAuthFailTimer) = true)
      (bs : Bytes) : DelaysOver env (s.setSend bs) := by
    have hover : DelaysOver env s := ⟨by simpa using hboot, by simpa using hfail⟩
    exact hover
  unfold securityAccess0x27
  dsimp only
  split_ifs with hreserved hboot hfail
  · exact .refused rfl rfl
  · exact .refused rfl rfl
  · exact .refused rfl rfl
  · exact (sendKey0x27_case (hover hboot hfail _) _ _).congr ⟨rfl, rfl, rfl⟩ ⟨rfl, rfl, rfl⟩
  · exact (requestSeed0x27_case (hover hboot hfail _) _ _).congr ⟨rfl, rfl, rfl⟩ ⟨rfl, rfl, rfl⟩

/-! ### Steps -/

variable {x : Observed} {tr : List Observed}

/-- **What an exchange has to do with the delays**: it calls a handler only when they are over, and
a key that was wrong, and nothing else, sets the timer. -/
structure KeepsDelays (s : Sys) (x : Observed) (t : Sys) : Prop where
  delaysOver : x.CallsRequestSeed ∨ x.CallsValidateKey → DelaysOver x.exchange.env s
  wrong : x.FailsKey → t.srv.secAccessAuthFailTimer =
    x.exchange.env.udsMillis 2 + bruteForceMitigationAuthFailDelayMs
  right : ¬x.FailsKey → Component.authFailTimer.Same s t

theorem KeepsDelays.of_case (h : SecurityAccessCase x.exchange.env s x.exchange.code t)
    (hlog : t.log = s.log ++ x.effects) : KeepsDelays s x t := by
  have heffects {effects : List Effect} (h : t.log = s.log ++ effects) : x.effects = effects :=
    List.append_cancel_left (hlog.symm.trans h)
  cases h with
  | refused hlog' htimer =>
    have hnone : x.effects = [] := heffects (hlog'.trans (List.append_nil _).symm)
    have hkey : ¬x.CallsValidateKey := by simp [Observed.CallsValidateKey, hnone]
    have hseed : ¬x.CallsRequestSeed := by simp [Observed.CallsRequestSeed, hnone]
    exact ⟨fun h => (h.elim hseed hkey).elim, fun h => absurd h.1 hkey, fun _ => htimer⟩
  | seed hover level record hlog' htimer =>
    have hkey : ¬x.CallsValidateKey := by simp [Observed.CallsValidateKey, heffects hlog']
    exact ⟨fun _ => hover, fun h => absurd h.1 hkey, fun _ => htimer⟩
  | key hover level key hlog' hright hwrong =>
    have hkey : x.CallsValidateKey := by simp [Observed.CallsValidateKey, heffects hlog']
    refine ⟨fun _ => hover, fun h => hwrong h.2, fun h => hright ?_⟩
    exact not_not.1 fun hcode => h ⟨hkey, hcode⟩

theorem ObservedStep.causes (h : ObservedStep B s x t) {e : Effect} (he : e ∈ x.effects) :
    x.exchange.Causes B e := by
  obtain ⟨effects, hlog, heffects⟩ := h.1.appends
  obtain rfl : x.effects = effects := List.append_cancel_left (h.2.symm.trans hlog)
  exact heffects e he

/-- Only `SecurityAccess` calls the two handlers. -/
theorem ObservedStep.service_of_calls (h : ObservedStep B s x t)
    (hx : x.CallsRequestSeed ∨ x.CallsValidateKey) :
    x.exchange.service = some .securityAccess := by
  rcases hx with ⟨level, record, hev⟩ | ⟨level, key, hev⟩
  · obtain ⟨service, hsome, hcauses⟩ := h.causes hev
    cases service <;> simp [UDSService.Causes] at hcauses
    exact hsome
  · obtain ⟨service, hsome, hcauses⟩ := h.causes hev
    cases service <;> simp [UDSService.Causes] at hcauses
    exact hsome

theorem ObservedStep.keepsDelays (h : ObservedStep B s x t) : KeepsDelays s x t := by
  by_cases hservice : x.exchange.service = some .securityAccess
  · obtain ⟨u, hcall, rfl⟩ := h.1.call_setSend hservice
    have hcase := securityAccess0x27_case x.exchange.env (s.receive B x.exchange.env x.exchange.req)
    rw [Except.ok.inj hcall] at hcase
    exact .of_case (hcase.congr ⟨rfl, rfl, rfl⟩ ⟨rfl, rfl, rfl⟩) h.2
  · have hnot : ¬(x.CallsRequestSeed ∨ x.CallsValidateKey) :=
      fun hcalls => hservice (h.service_of_calls hcalls)
    refine ⟨fun hcalls => absurd hcalls hnot, fun hfails => absurd (.inr hfails.1) hnot,
      fun _ => ?_⟩
    exact h.1.same_of_owner rfl hservice

/-! ### Runs -/

/-- The readings for a request, when none for an earlier one is later. -/
def Follows (env : Env) (tr : List Observed) (y : Observed) : Prop :=
  (∀ i j, env.millis i ≤ y.exchange.env.millis j) ∧
    ∀ x ∈ tr, ∀ i j, x.exchange.env.millis i ≤ y.exchange.env.millis j

theorem Nondecreasing.of_snoc {y : Observed}
    (h : Nondecreasing (env :: (tr ++ [y]).map fun x => x.exchange.env)) :
    Nondecreasing (env :: tr.map fun x => x.exchange.env) ∧ Follows env tr y := by
  obtain ⟨hmono, hpairwise⟩ := h
  rw [List.map_append, ← List.cons_append, List.pairwise_append] at hpairwise
  obtain ⟨hbefore, -, hlast⟩ := hpairwise
  have hy (env' : Env) (h : env' ∈ env :: tr.map fun x => x.exchange.env) (i j : ℕ) :
      env'.millis i ≤ y.exchange.env.millis j := hlast env' h y.exchange.env (by simp) i j
  refine ⟨⟨fun env' h => hmono env' ?_, hbefore⟩, hy env (by simp), fun x hx => ?_⟩
  · rw [List.map_append, ← List.cons_append]
    exact List.mem_append_left _ h
  · exact hy _ (List.mem_cons_of_mem _ (List.mem_map_of_mem hx))

/-- The timers of a reachable state: the boot delay was set at start-up, the other delay by the last
key that was wrong. -/
structure Delays (env : Env) (tr : List Observed) (s : Sys) : Prop where
  boot : s.srv.secAccessBootDelayTimer = env.udsMillis 2 + bruteForceMitigationBootDelayMs
  fail : (∀ x ∈ tr, ¬x.FailsKey) ∨ ∃ z ∈ tr, s.srv.secAccessAuthFailTimer =
    z.exchange.env.udsMillis 2 + bruteForceMitigationAuthFailDelayMs ∧
      ∀ x ∈ tr, x.FailsKey → x.exchange.env.millis 2 ≤ z.exchange.env.millis 2

theorem Delays.step {y : Observed} (h : Delays env tr s) (hstep : ObservedStep B s y t)
    (hfollows : Follows env tr y) : Delays env (tr ++ [y]) t := by
  obtain ⟨-, -, -, -, hboot, -⟩ : Component.settings.Same s t :=
    hstep.1.same (by simp) (by simp) fun service _ => service.not_touches_settings
  refine ⟨hboot.trans h.boot, ?_⟩
  by_cases hy : y.FailsKey
  · refine .inr ⟨y, by simp, hstep.keepsDelays.wrong hy, fun x hx _ => ?_⟩
    rcases List.mem_append.1 hx with hx | hx
    · exact hfollows.2 x hx 2 2
    · rw [List.mem_singleton.1 hx]
  · have htimer : t.srv.secAccessAuthFailTimer = s.srv.secAccessAuthFailTimer :=
      hstep.keepsDelays.right hy
    have hmem (x : Observed) (hx : x ∈ tr ++ [y]) (hfails : x.FailsKey) : x ∈ tr := by
      refine (List.mem_append.1 hx).resolve_right fun hx => hy ?_
      rwa [← List.mem_singleton.1 hx]
    rcases h.fail with hnone | ⟨z, hz, hset, hlast⟩
    · exact .inl fun x hx hfails => hnone x (hmem x hx hfails) hfails
    · refine .inr ⟨z, List.mem_append_left _ hz, htimer.trans hset, fun x hx hfails => ?_⟩
      exact hlast x (hmem x hx hfails) hfails

/-- **What the delays say about a call**, in true time. -/
theorem Delays.lt {y : Observed} (h : Delays env tr s) (hstep : ObservedStep B s y t)
    (hfollows : Follows env tr y) (hy : y.CallsRequestSeed ∨ y.CallsValidateKey) :
    env.millis 2 + 1000 < y.exchange.env.millis 0 ∧
      ∀ x ∈ tr, x.FailsKey → x.exchange.env.millis 2 + 1000 < y.exchange.env.millis 1 := by
  obtain ⟨hboot, hfail⟩ := hstep.keepsDelays.delaysOver hy
  refine ⟨?_, fun x hx hfails => ?_⟩
  · rw [h.boot] at hboot
    exact lt_of_udsTimeAfter (by decide) (hfollows.1 2 0) hboot
  · rcases h.fail with hnone | ⟨z, hz, hset, hlast⟩
    · exact absurd hfails (hnone x hx)
    · rw [hset] at hfail
      have hlt : z.exchange.env.millis 2 + 1000 < y.exchange.env.millis 1 :=
        lt_of_udsTimeAfter (by decide) (hfollows.2 z hz 2 1) hfail
      have hle := hlast x hx hfails
      omega

/-- **Key guessing is rate limited**, in true time, whatever the clock shows. The handlers are not
called in the first 1000 ms after `UDSServerInit` has set the boot delay. `HandleValidateKey` fails
before the third reading for its request, and is called after the second: the two are more than
1000 ms apart. -/
theorem key_guessing_is_limited {tr : List Observed}
    (h : Runs.Run (· = udsServerInit env fs) (ObservedStep B) tr s)
    (hclock : Nondecreasing (env :: tr.map fun x => x.exchange.env)) :
    (∀ x ∈ tr, x.CallsRequestSeed ∨ x.CallsValidateKey →
      env.millis 2 + 1000 < x.exchange.env.millis 0) ∧
    tr.Pairwise fun x y => x.FailsKey → y.CallsValidateKey →
      x.exchange.env.millis 2 + 1000 < y.exchange.env.millis 1 := by
  have hinvariant := Run.invariant (P := fun tr s =>
    Nondecreasing (env :: tr.map fun x => x.exchange.env) → Delays env tr s ∧
      (∀ x ∈ tr, x.CallsRequestSeed ∨ x.CallsValidateKey →
        env.millis 2 + 1000 < x.exchange.env.millis 0) ∧
      tr.Pairwise fun x y => x.FailsKey → y.CallsValidateKey →
        x.exchange.env.millis 2 + 1000 < y.exchange.env.millis 1) ?_ ?_ h
  · exact (hinvariant hclock).2
  · rintro s rfl -
    exact ⟨⟨rfl, .inl (by simp)⟩, by simp, .nil⟩
  · rintro tr s y t - ih hstep hclock
    obtain ⟨hbefore, hfollows⟩ := hclock.of_snoc
    obtain ⟨hdelays, hcalls, hpairs⟩ := ih hbefore
    refine ⟨hdelays.step hstep hfollows, fun x hx hxcalls => ?_, ?_⟩
    · rcases List.mem_append.1 hx with hx | hx
      · exact hcalls x hx hxcalls
      · obtain rfl := List.mem_singleton.1 hx
        exact (hdelays.lt hstep hfollows hxcalls).1
    · refine List.pairwise_append.2 ⟨hpairs, List.pairwise_singleton _ _, fun x hx y' hy' => ?_⟩
      obtain rfl := List.mem_singleton.1 hy'
      exact fun hfails hycalls => (hdelays.lt hstep hfollows (.inr hycalls)).2 x hx hfails

/-- The exchange of a request, with its effects, and the state after it. -/
def Sys.observe (B : Build) (s : Sys) (env : Env) (q : Request) : Option (Observed × Sys) :=
  match processRequest B env s q with
  | .error _ => none
  | .ok (c, t) => some (⟨⟨q, env, c, t.srv.r.sendBuf⟩, t.log.drop s.log.length⟩, t)

theorem observedStep_of_observe {q : Request} (h : s.observe B env q = some (x, t)) :
    ObservedStep B s x t ∧ x.exchange.env = env := by
  unfold Sys.observe at h
  split at h
  · cases h
  · next c u hprocess =>
    obtain ⟨rfl, rfl⟩ := Prod.mk.inj (Option.some.inj h)
    have hstep : ServerStep B s ⟨q, env, c, u.srv.r.sendBuf⟩ u := ⟨hprocess, rfl⟩
    obtain ⟨effects, hlog, -⟩ := hstep.appends
    refine ⟨⟨hstep, ?_⟩, rfl⟩
    show u.log = s.log ++ u.log.drop s.log.length
    rw [hlog, List.drop_left]

/-- The exchange called `HandleValidateKey` with the key 01 02 03 04, in vain. -/
def Observed.guesses (x : Observed) : Bool :=
  x.effects = [.emit (.secAccessValidateKey 1 [1, 2, 3, 4])] && x.exchange.code = kGeneralReject

theorem Observed.failsKey_of_guesses (h : x.guesses = true) : x.FailsKey := by
  simp only [Observed.guesses, Bool.and_eq_true, decide_eq_true_eq] at h
  obtain ⟨heffects, hcode⟩ := h
  refine ⟨⟨1, [1, 2, 3, 4], by simp [heffects]⟩, ?_⟩
  rw [hcode]
  decide

/-- Two wrong keys, one and a half seconds apart. -/
theorem key_guessing_is_limited_two_keys : ∃ x y : Observed, x.FailsKey ∧ y.FailsKey ∧
    x.exchange.env.millis 2 + 1000 < y.exchange.env.millis 1 := by
  let q := Request.ofBytes [0x27, 0x02, 1, 2, 3, 4] (by decide) fun _ => 0
  have hguesses : ((udsServerInit (.fair 0) fun _ => none).observe ⟨65535, .test⟩ (.fair 2000)
      q).any (fun p => p.1.guesses && (p.2.observe ⟨65535, .test⟩ (.fair 3500) q).any
        fun r => r.1.guesses) = true := by
    decide +kernel
  obtain ⟨⟨x, s⟩, hx, hx'⟩ := (Option.any_eq_true _ _).1 hguesses
  obtain ⟨hxguesses, hy'⟩ := Bool.and_eq_true_iff.1 hx'
  obtain ⟨⟨y, t⟩, hy, hyguesses⟩ := (Option.any_eq_true _ _).1 hy'
  obtain ⟨hxstep, hxenv⟩ := observedStep_of_observe hx
  obtain ⟨hystep, hyenv⟩ := observedStep_of_observe hy
  have hxfails := Observed.failsKey_of_guesses hxguesses
  have hyfails := Observed.failsKey_of_guesses hyguesses
  have hstart : Runs.Run (· = udsServerInit (.fair 0) fun _ => none)
      (ObservedStep ⟨65535, .test⟩) [] _ := .start rfl
  have hrun := (hstart.snoc hxstep).snoc hystep
  have hclock : Nondecreasing (.fair 0 :: [x, y].map fun x : Observed => x.exchange.env) := by
    simp [Nondecreasing, hxenv, hyenv, Env.fair, monotone_const]
  have hpairs := (key_guessing_is_limited hrun hclock).2
  have hlt := (List.pairwise_cons.1 hpairs).1 y (List.mem_singleton_self y)
  exact ⟨x, y, hxfails, hyfails, hlt hxfails hyfails.1⟩

end EcuUpgrade
