import EcuUpgrade.Server.Pending

/-!
# The polling loop

`main` calls `UDSServerPoll` again and again. A poll looks at the timers; then, if a request is in
progress, it sends the response once the time for it has come, and otherwise it peeks at the
transport and evaluates what it finds there. What a poll does with the transport is recorded as
the list of its events.

## Main definitions

* `Sys.udsServerPoll`: one poll.
* `Poll`, `PollStep`, `PollRun`: the transition system of the polls.

## Main results

* `PollStep.cases`: what a poll does.
* `PollStep.same`, `PollRun.settings`: what polls leave unchanged.
-/

namespace EcuUpgrade

open ResponseCode

variable (B : Build) (env : Env)

/-! ### `UDSServerPoll` -/

/-- `UDSServerPoll` up to its branch: the session timeout and a scheduled reset. -/
def Sys.pollTimers (s : Sys) : Sys :=
  let s := if s.srv.sessionType ≠ kDefaultSession ∧
      udsTimeAfter (env.udsMillis 0) s.srv.s3SessionTimeoutTimer then
    (handleSessionTimeout (s.emitEvent .sessionTimeout)).2 else s
  if s.srv.ecuResetScheduled ≠ 0 ∧ udsTimeAfter (env.udsMillis 1) s.srv.ecuResetTimer then
    (handleDoScheduledReset B (s.emitEvent (.doScheduledReset s.srv.ecuResetScheduled))).2 else s

/-- While a service asks for more time, it is called again in every poll. -/
def Sys.pollPending (s : Sys) : Except Fault Sys :=
  if s.srv.rcrrp then
    match evaluateServiceResponse B env s with
    | .error e => .error e
    | .ok (response, s) =>
      if response = kRequestCorrectlyReceivedResponsePending then
        .ok { s with srv.notReadyToReceive := true }
      else .ok { s with
        srv.rcrrp := false
        srv.notReadyToReceive := false
        srv.p2Timer := env.udsMillis 2 + s.srv.p2Ms.toUInt32 }
  else .ok s

/-- What a poll does with the transport, and its evaluations. -/
inductive PollEvent
  | peek
  | evaluate (x : Exchange)
  | reevaluate
  | send (response : Bytes)
  | ackRecv

/-- The exchange of an evaluation. -/
def PollEvent.exchange : PollEvent → Option Exchange
  | .evaluate x => some x
  | _ => none

/-- `UDSTpSend` and what follows it. -/
def Sys.pollSend (s : Sys) : Sys × List PollEvent :=
  if s.srv.rcrrp then
    ({ s with srv.p2Timer := env.udsMillis 4 + s.srv.p2StarMs * 3 / 10 }, [.send s.srv.r.sendBuf])
  else
    ({ s with
      srv.p2Timer := env.udsMillis 4 + s.srv.p2Ms.toUInt32
      srv.requestInProgress := false }, [.send s.srv.r.sendBuf, .ackRecv])

/-- `UDSTpPeek` and the evaluation of what it returns, `q`, unless that is empty; `env'` gives the
outcomes of the system calls made for it. -/
def Sys.pollPeek (s : Sys) (env' : Env) (q : Request) : Except Fault (Sys × List PollEvent) :=
  if q.len = 0 then
    .ok ({ s with
      srv.r.recvBuf := q.buf
      srv.r.recvLen := q.len
      srv.r.sendBufSize := B.udsTpMtu.toNat }, [.peek])
  else match processRequest B env' s q with
  | .error e => .error e
  | .ok (response, s) => .ok ({ s with
      srv.requestInProgress := true
      srv.rcrrp := if response = kRequestCorrectlyReceivedResponsePending then true
        else s.srv.rcrrp },
      [.peek, .evaluate ⟨q, env', response, s.srv.r.sendBuf⟩])

/-- `UDSServerPoll`. -/
def Sys.udsServerPoll (s : Sys) (env' : Env) (q : Request) :
    Except Fault (Sys × List PollEvent) :=
  let s := s.pollTimers B env
  if s.srv.requestInProgress then
    let evaluations := if s.srv.rcrrp then [PollEvent.reevaluate] else []
    match s.pollPending B env with
    | .error e => .error e
    | .ok s =>
      if udsTimeAfter (env.udsMillis 3) s.srv.p2Timer then
        .ok ((s.pollSend env).1, evaluations ++ (s.pollSend env).2)
      else .ok (s, evaluations)
  else if s.srv.notReadyToReceive then .ok (s, [])
  else s.pollPeek B env' q

/-! ### Runs -/

/-- A poll, with what the system and the transport gave it and what it did: `env` has the times it
read, `request` is what a peek returns, and `evalEnv` has the outcomes for its evaluation. -/
structure Poll where
  env : Env
  evalEnv : Env
  request : Request
  events : List PollEvent

/-- The exchanges of a poll. -/
def Poll.exchanges (p : Poll) : List Exchange := p.events.filterMap PollEvent.exchange

/-- A poll that leaves the process running. -/
def PollStep (s : Sys) (p : Poll) (t : Sys) : Prop :=
  s.udsServerPoll B p.env p.evalEnv p.request = .ok (t, p.events)

/-- A run of polls from start-up, whatever the transport returns. -/
abbrev PollRun : List Poll → Sys → Prop := Runs.Run ServerStart (PollStep B)

variable {B env} {s t : Sys} {p : Poll} {tr : List Poll} {k : Component}

/-! ### What a poll does -/

/-- The timers change nothing but the scheduled reset. -/
theorem pollTimers_same (h : k ≠ .reset) (env : Env) (s : Sys) : k.Same s (s.pollTimers B env) := by
  have hclear (u : Sys) : k.Same s u.clearReset ↔ k.Same s u := by
    cases k <;> first | exact absurd rfl h | exact Iff.rfl
  unfold Sys.pollTimers
  dsimp only
  split_ifs <;> cases htarget : B.target <;>
    simp [handleDoScheduledReset, handleSessionTimeout, htarget, hclear]

/-- Polls keep the response until it is sent. -/
theorem pollTimers_sendBuf (env : Env) (s : Sys) :
    (s.pollTimers B env).srv.r.sendBuf = s.srv.r.sendBuf := by
  unfold Sys.pollTimers
  dsimp only
  split_ifs <;> cases htarget : B.target <;>
    simp [handleDoScheduledReset, handleSessionTimeout, htarget, Sys.clearReset, Sys.emitEvent,
      Sys.emit]

theorem pollPending_of_settings {s : Sys} (hs : Settings s) : s.pollPending B env = .ok s := by
  unfold Sys.pollPending
  rw [hs.rcrrp]
  rfl

@[simp] theorem pollTimers_requestInProgress :
    (s.pollTimers B env).srv.requestInProgress = s.srv.requestInProgress :=
  (pollTimers_same (k := .settings) (by simp) env s).2.2.2.2.2.2.1

@[simp] theorem pollTimers_notReadyToReceive :
    (s.pollTimers B env).srv.notReadyToReceive = s.srv.notReadyToReceive := by
  unfold Sys.pollTimers
  dsimp only
  split_ifs <;> cases htarget : B.target <;>
    simp [handleDoScheduledReset, handleSessionTimeout, htarget, Sys.clearReset, Sys.emitEvent,
      Sys.emit]

theorem Settings.pollTimers (hs : Settings s) : Settings (s.pollTimers B env) :=
  hs.of_same (pollTimers_same (by simp) env s)

/-- The process after a response has been sent and acknowledged. -/
def Sys.acknowledged (s : Sys) (timer : UInt32) : Sys :=
  { s with srv.p2Timer := timer, srv.requestInProgress := false }

theorem pollSend_of_settings (hs : Settings s) :
    s.pollSend env = (s.acknowledged (env.udsMillis 4 + s.srv.p2Ms.toUInt32),
      [.send s.srv.r.sendBuf, .ackRecv]) := by
  unfold Sys.pollSend
  rw [hs.rcrrp]
  rfl

/-- **A poll with the settings of the server**: no service asks for more time. -/
theorem udsServerPoll_of_settings (hs : Settings s) (env' : Env) (q : Request) :
    s.udsServerPoll B env env' q =
      if s.srv.requestInProgress then
        if udsTimeAfter (env.udsMillis 3) (s.pollTimers B env).srv.p2Timer then
          .ok ((s.pollTimers B env).acknowledged (env.udsMillis 4 +
            (s.pollTimers B env).srv.p2Ms.toUInt32), [.send s.srv.r.sendBuf, .ackRecv])
        else .ok (s.pollTimers B env, [])
      else if s.srv.notReadyToReceive then .ok (s.pollTimers B env, [])
      else (s.pollTimers B env).pollPeek B env' q := by
  have hs' : Settings (s.pollTimers B env) := hs.pollTimers
  unfold Sys.udsServerPoll
  dsimp only
  rw [pollTimers_requestInProgress, pollTimers_notReadyToReceive, pollPending_of_settings hs',
    hs'.rcrrp, if_neg Bool.false_ne_true]
  dsimp only
  rw [pollSend_of_settings hs', pollTimers_sendBuf]
  rfl

/-- The process after a peek. -/
def Sys.peeked (s : Sys) (B : Build) (q : Request) : Sys :=
  { s with
    srv.r.recvBuf := q.buf
    srv.r.recvLen := q.len
    srv.r.sendBufSize := B.udsTpMtu.toNat }

/-- The process after an evaluation, with the request in progress. -/
def Sys.inProgress (s : Sys) : Sys := { s with srv.requestInProgress := true }

theorem same_acknowledged (h : k ≠ .settings) (timer : UInt32) :
    k.Same s (t.acknowledged timer) ↔ k.Same s t := by
  cases k <;> first | exact absurd rfl h | exact Iff.rfl

theorem same_peeked (h : k ≠ .request) (q : Request) :
    k.Same s (t.peeked B q) ↔ k.Same s t := by
  cases k <;> first | exact absurd rfl h | exact Iff.rfl

theorem same_inProgress (h : k ≠ .settings) : k.Same s t.inProgress ↔ k.Same s t := by
  cases k <;> first | exact absurd rfl h | exact Iff.rfl

/-- **What a poll does**: it waits for the time to answer, answers, cannot receive, peeks in vain,
or evaluates a request. -/
inductive PollCase (B : Build) (s : Sys) (p : Poll) (t : Sys) : Prop
  | wait (hprogress : s.srv.requestInProgress = true) (ht : t = s.pollTimers B p.env)
      (hevents : p.events = [])
  | answer (hprogress : s.srv.requestInProgress = true)
      (ht : ∃ timer, t = (s.pollTimers B p.env).acknowledged timer)
      (hevents : p.events = [.send s.srv.r.sendBuf, .ackRecv])
  | deaf (hprogress : s.srv.requestInProgress = false) (hdeaf : s.srv.notReadyToReceive = true)
      (ht : t = s.pollTimers B p.env) (hevents : p.events = [])
  | idle (hprogress : s.srv.requestInProgress = false) (hready : s.srv.notReadyToReceive = false)
      (hlen : p.request.len = 0) (ht : t = (s.pollTimers B p.env).peeked B p.request)
      (hevents : p.events = [.peek])
  | evaluate (hprogress : s.srv.requestInProgress = false)
      (hready : s.srv.notReadyToReceive = false) (hlen : p.request.len ≠ 0) (x : Exchange)
      (hreq : x.req = p.request) (u : Sys) (hstep : ServerStep B (s.pollTimers B p.env) x u)
      (ht : t = u.inProgress) (hevents : p.events = [.peek, .evaluate x])

theorem PollStep.cases (hs : Settings s) (h : PollStep B s p t) : PollCase B s p t := by
  have hs' : Settings (s.pollTimers B p.env) := hs.pollTimers
  rw [PollStep, udsServerPoll_of_settings hs] at h
  cases hprogress : s.srv.requestInProgress with
  | true =>
    rw [hprogress, if_pos rfl] at h
    split_ifs at h
    · obtain ⟨rfl, hevents⟩ := Prod.mk.inj (Except.ok.inj h)
      exact .answer hprogress ⟨_, rfl⟩ hevents.symm
    · obtain ⟨rfl, hevents⟩ := Prod.mk.inj (Except.ok.inj h)
      exact .wait hprogress rfl hevents.symm
  | false =>
    rw [hprogress, if_neg (by simp)] at h
    split_ifs at h with hdeaf
    · obtain ⟨rfl, hevents⟩ := Prod.mk.inj (Except.ok.inj h)
      exact .deaf hprogress hdeaf rfl hevents.symm
    · have hready : s.srv.notReadyToReceive = false := by simpa using hdeaf
      unfold Sys.pollPeek at h
      split_ifs at h with hlen
      · obtain ⟨rfl, hevents⟩ := Prod.mk.inj (Except.ok.inj h)
        exact .idle hprogress hready hlen rfl hevents.symm
      · cases hprocess : processRequest B p.evalEnv (s.pollTimers B p.env) p.request with
        | error e =>
          rw [hprocess] at h
          cases h
        | ok r =>
          obtain ⟨c, u⟩ := r
          rw [hprocess] at h
          obtain ⟨ht, hevents⟩ := Prod.mk.inj (Except.ok.inj h)
          have hstep : ServerStep B (s.pollTimers B p.env)
              ⟨p.request, p.evalEnv, c, u.srv.r.sendBuf⟩ u := ⟨hprocess, rfl⟩
          have hfinal : c ≠ kRequestCorrectlyReceivedResponsePending :=
            processRequest_final hs'.rcrrp hprocess
          rw [if_neg hfinal] at ht
          exact .evaluate hprogress hready hlen _ rfl u hstep ht.symm hevents.symm

/-- **A poll evaluates one request, or it changes nothing**, the settings, the request and the
scheduled reset apart. -/
theorem PollStep.exchanges (hs : Settings s) (h : PollStep B s p t) :
    (p.exchanges = [] ∧
        ∀ k, k ≠ .settings → k ≠ .request → k ≠ .reset → Component.Same s t k) ∨
      ∃ x u, p.exchanges = [x] ∧ ServerStep B (s.pollTimers B p.env) x u ∧ t = u.inProgress := by
  cases h.cases hs with
  | wait _ ht hevents =>
    exact .inl ⟨by simp [Poll.exchanges, hevents], fun k _ _ hreset =>
      ht ▸ pollTimers_same hreset _ _⟩
  | answer _ ht hevents =>
    obtain ⟨timer, rfl⟩ := ht
    exact .inl ⟨by simp [Poll.exchanges, hevents, PollEvent.exchange], fun k hset _ hreset =>
      (same_acknowledged hset timer).2 (pollTimers_same hreset _ _)⟩
  | deaf _ _ ht hevents =>
    exact .inl ⟨by simp [Poll.exchanges, hevents], fun k _ _ hreset =>
      ht ▸ pollTimers_same hreset _ _⟩
  | idle _ _ _ ht hevents =>
    exact .inl ⟨by simp [Poll.exchanges, hevents, PollEvent.exchange], fun k _ hreq hreset =>
      ht ▸ (same_peeked hreq _).2 (pollTimers_same hreset _ _)⟩
  | evaluate _ _ _ x _ u hstep ht hevents =>
    refine .inr ⟨x, u, ?_, hstep, ht⟩
    rw [Poll.exchanges, hevents]
    rfl

/-- **Polls keep the settings.** -/
theorem Settings.pollStep (hs : Settings s) (h : PollStep B s p t) : Settings t := by
  have hs' : Settings (s.pollTimers B p.env) := hs.pollTimers
  cases h.cases hs with
  | wait _ ht => exact ht ▸ hs'
  | answer _ ht =>
    obtain ⟨timer, rfl⟩ := ht
    exact ⟨hs'.p2Ms, hs'.p2StarMs, hs'.s3Ms, hs'.rcrrp, hs'.taType⟩
  | deaf _ _ ht => exact ht ▸ hs'
  | idle _ _ _ ht => exact ht ▸ ⟨hs'.p2Ms, hs'.p2StarMs, hs'.s3Ms, hs'.rcrrp, hs'.taType⟩
  | evaluate _ _ _ x _ u hstep ht =>
    have hu : Settings u := hs'.step hstep
    exact ht ▸ ⟨hu.p2Ms, hu.p2StarMs, hu.s3Ms, hu.rcrrp, hu.taType⟩

theorem PollRun.settings (h : PollRun B tr s) : Settings s :=
  Runs.Run.invariant (P := fun _ s => Settings s)
    (fun _ ⟨env, fs, hs⟩ => hs ▸ settings_udsServerInit env fs)
    (fun _ _ _ _ _ hs hstep => hs.pollStep hstep) h

/-- **A poll changes nothing but what the service of an evaluated request touches**, the settings,
the request, the scheduled reset and the flag of the running upgrade apart. -/
theorem PollStep.same (hs : Settings s) (h : PollStep B s p t) (hset : k ≠ .settings)
    (hreq : k ≠ .request) (hupg : k ≠ .upgrading) (hreset : k ≠ .reset)
    (hk : ∀ x ∈ p.exchanges, ∀ service, x.service = some service → ¬service.Touches B k) :
    k.Same s t := by
  rcases h.exchanges hs with ⟨-, hsame⟩ | ⟨x, u, hx, hstep, rfl⟩
  · exact hsame k hset hreq hreset
  · have hu : Component.Same (s.pollTimers B p.env) u k :=
      hstep.same hreq hupg (hk x (by simp [hx]))
    exact (same_inProgress hset).2 ((pollTimers_same hreset _ _).trans hu)

/-! ### Evaluating a run -/

/-- The polls at given times with given requests, and the process after them. -/
def Sys.polls (B : Build) (s : Sys) : List (Env × Env × Request) → Option (List Poll × Sys)
  | [] => some ([], s)
  | (env, evalEnv, q) :: rest =>
    match s.udsServerPoll B env evalEnv q with
    | .error _ => none
    | .ok (t, events) => (t.polls B rest).map fun r => (⟨env, evalEnv, q, events⟩ :: r.1, r.2)

theorem Sys.polls_path {qs : List (Env × Env × Request)} (h : s.polls B qs = some (tr, t)) :
    Runs.Path (PollStep B) s tr t := by
  induction qs generalizing s tr with
  | nil =>
    cases h
    exact .nil _
  | cons q rest ih =>
    obtain ⟨env, evalEnv, q⟩ := q
    unfold Sys.polls at h
    split at h
    · cases h
    · next hpoll =>
      obtain ⟨r, hrest, heq⟩ := Option.map_eq_some_iff.1 h
      cases heq
      exact .cons hpoll (ih hrest)

theorem exists_run_of_polls (B : Build) (env : Env) (fs : Path → Option Bytes)
    (qs : List (Env × Env × Request)) (P : List Poll → Sys → Prop) [∀ tr t, Decidable (P tr t)]
    (h : ((udsServerInit env fs).polls B qs).any (fun p => decide (P p.1 p.2)) = true) :
    ∃ tr s, PollRun B tr s ∧ P tr s := by
  cases hpolls : (udsServerInit env fs).polls B qs with
  | none => simp [hpolls] at h
  | some p =>
    rw [hpolls] at h
    exact ⟨p.1, p.2, (Runs.Run.start ⟨env, fs, rfl⟩).append (Sys.polls_path hpolls),
      of_decide_eq_true h⟩

/-- A poll that leaves the process running, found by its evaluation. -/
theorem exists_pollStep (B : Build) (s : Sys) (env env' : Env) (q : Request)
    (P : Poll → Sys → Bool) (h : (s.udsServerPoll B env env' q).toOption.any
      (fun r => P ⟨env, env', q, r.2⟩ r.1) = true) :
    ∃ events t, PollStep B s ⟨env, env', q, events⟩ t ∧ P ⟨env, env', q, events⟩ t = true := by
  cases hpoll : s.udsServerPoll B env env' q with
  | error e =>
    rw [hpoll] at h
    cases h
  | ok r =>
    rw [hpoll] at h
    exact ⟨r.2, r.1, hpoll, h⟩

end EcuUpgrade
