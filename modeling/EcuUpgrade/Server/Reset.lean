import EcuUpgrade.Server.Polls

/-!
# Resets and the readiness to receive

An accepted `ECUReset` makes the server deaf: `notReadyToReceive` is set, and no request is peeked
any more until the scheduled reset restarts the process. The type of the reset is taken from the
request and doubles as the mark that a reset is scheduled, and `HandleDoScheduledReset` clears the
mark but not `notReadyToReceive`. So the server stays deaf after a reset of the type zero, which is
never scheduled, and after a reset from which the process returns.

## Main definitions

* `Sys.Recovers`: a deaf server has a reset scheduled.
* `ResetDue`, `StartsZeroReset`: the polls that perform a reset and those that accept one of the
  type zero.
* `CarefulRun`: the runs without such polls.

## Main results

* `recovers_iff`: these are the runs in which the server recovers.
* `deaf_for_good`: a reset of the type zero leaves it deaf.
-/

namespace EcuUpgrade

open ResponseCode Runs

variable {B : Build} {env : Env} {s t : Sys} {q : Request} {x : Exchange} {p : Poll}
  {tr : List Poll}

/-- If the server does not receive requests, a reset is scheduled. -/
def Sys.Recovers (s : Sys) : Prop :=
  s.srv.notReadyToReceive = true → s.srv.ecuResetScheduled ≠ 0

instance (s : Sys) : Decidable s.Recovers := inferInstanceAs (Decidable (_ → _))

/-- The type of reset in a request. -/
def Request.resetType (q : Request) : UInt8 := q.buf 1 &&& 0x3F

/-- The request is an `ECUReset` of sufficient length. -/
def Request.Resets (q : Request) : Prop :=
  getServiceForSID (q.buf 0) = some .ecuReset ∧ 2 ≤ q.len

/-- A poll with the times of `env` performs the scheduled reset. -/
def ResetDue (s : Sys) (env : Env) : Prop :=
  s.srv.ecuResetScheduled ≠ 0 ∧ udsTimeAfter (env.udsMillis 1) s.srv.ecuResetTimer = true

/-- A poll evaluates a request for a reset of the type zero. -/
def StartsZeroReset (s : Sys) (q : Request) : Prop :=
  s.srv.requestInProgress = false ∧ s.srv.notReadyToReceive = false ∧ q.Resets ∧ q.resetType = 0

/-- The poll neither performs a reset nor accepts one of the type zero. -/
def Poll.Careful (p : Poll) (s : Sys) : Prop :=
  ¬ResetDue s p.env ∧ ¬StartsZeroReset s p.request

/-- A careful poll. -/
def CarefulStep (B : Build) (s : Sys) (p : Poll) (t : Sys) : Prop := PollStep B s p t ∧ p.Careful s

/-- A run without resets that are performed and without resets of the type zero. -/
abbrev CarefulRun (B : Build) : List Poll → Sys → Prop := Run ServerStart (CarefulStep B)

/-! ### Steps -/

/-- The state in which a poll tests for the scheduled reset. -/
theorem pollTimers_eq (B : Build) (env : Env) (s : Sys) :
    ∃ u effects, u.srv.notReadyToReceive = s.srv.notReadyToReceive ∧
      u.srv.ecuResetScheduled = s.srv.ecuResetScheduled ∧
      u.srv.ecuResetTimer = s.srv.ecuResetTimer ∧ u.log = s.log ++ effects ∧
      s.pollTimers B env = if u.srv.ecuResetScheduled ≠ 0 ∧
          udsTimeAfter (env.udsMillis 1) u.srv.ecuResetTimer then
        (handleDoScheduledReset B (u.emitEvent (.doScheduledReset u.srv.ecuResetScheduled))).2
      else u := by
  unfold Sys.pollTimers
  dsimp only
  by_cases hsession : s.srv.sessionType ≠ kDefaultSession ∧
      udsTimeAfter (env.udsMillis 0) s.srv.s3SessionTimeoutTimer
  · rw [if_pos hsession]
    exact ⟨s.emitEvent .sessionTimeout, [.emit .sessionTimeout], rfl, rfl, rfl, rfl, rfl⟩
  · rw [if_neg hsession]
    exact ⟨s, [], rfl, rfl, rfl, (List.append_nil _).symm, rfl⟩

/-- A poll without a due reset leaves the scheduled reset as it is. -/
theorem pollTimers_of_not_due (h : ¬ResetDue s env) :
    Component.reset.Same s (s.pollTimers B env) := by
  obtain ⟨u, effects, hready, hscheduled, htimer, -, heq⟩ := pollTimers_eq B env s
  have h' : ¬(u.srv.ecuResetScheduled ≠ 0 ∧
      udsTimeAfter (env.udsMillis 1) u.srv.ecuResetTimer = true) := by
    rwa [hscheduled, htimer]
  rw [heq, if_neg h']
  exact ⟨hready, hscheduled, htimer⟩

/-- A poll with a due reset reaches `HandleDoScheduledReset`, which clears the schedule only. -/
theorem pollTimers_of_due (h : ResetDue s env) :
    (s.pollTimers B env).srv.ecuResetScheduled = 0 ∧
      ∃ effects, (s.pollTimers B env).log = s.log ++ effects ∧
        .emit (.doScheduledReset s.srv.ecuResetScheduled) ∈ effects := by
  obtain ⟨u, effects, -, hscheduled, htimer, hlog, heq⟩ := pollTimers_eq B env s
  have h' : u.srv.ecuResetScheduled ≠ 0 ∧
      udsTimeAfter (env.udsMillis 1) u.srv.ecuResetTimer = true := by
    rwa [hscheduled, htimer]
  rw [heq, if_pos h', hscheduled]
  unfold handleDoScheduledReset
  cases B.target with
  | t5 =>
    refine ⟨rfl, effects ++ [.emit (.doScheduledReset s.srv.ecuResetScheduled),
      .system (ascii ['r', 'e', 'b', 'o', 'o', 't'])], ?_, by simp⟩
    simp [Sys.emit, Sys.clearReset, Sys.emitEvent, hlog]
  | test =>
    refine ⟨rfl, effects ++ [.emit (.doScheduledReset s.srv.ecuResetScheduled)], ?_, by simp⟩
    simp [Sys.emit, Sys.clearReset, Sys.emitEvent, hlog]

/-- The outcomes of an `ECUReset` request: the handler accepts every type of reset. -/
theorem ecuReset0x11_cases (env : Env) (s : Sys) :
    (s.srv.r.recvLen < 2 ∧
        ecuReset0x11 env s = s.negativeResponse kIncorrectMessageLengthOrInvalidFormat) ∨
      (2 ≤ s.srv.r.recvLen ∧ (ecuReset0x11 env s).2.srv.notReadyToReceive = true ∧
        (ecuReset0x11 env s).2.srv.ecuResetScheduled = s.srv.r.recvBuf 1 &&& 0x3F) := by
  unfold ecuReset0x11
  dsimp only [handleEcuReset]
  split_ifs with hlen herr
  · exact .inl ⟨hlen, rfl⟩
  · exact absurd rfl herr
  · exact .inr ⟨Nat.not_lt.1 hlen, rfl, rfl⟩
  · exact .inr ⟨Nat.not_lt.1 hlen, rfl, rfl⟩

/-- **What an exchange schedules**: a reset, if it is one. -/
theorem ServerStep.reset (h : ServerStep B s x t) :
    (x.req.Resets ∧ t.srv.notReadyToReceive = true ∧ t.srv.ecuResetScheduled = x.req.resetType) ∨
      (¬x.req.Resets ∧ Component.reset.Same s t) := by
  by_cases hservice : x.service = some .ecuReset
  swap
  · exact .inr ⟨fun hx => hservice hx.1, h.same_of_owner rfl hservice⟩
  obtain ⟨u, hcall, rfl⟩ := h.call_setSend hservice
  have hcall' : ecuReset0x11 x.env (s.receive B x.env x.req) = (x.code, u) := Except.ok.inj hcall
  rcases ecuReset0x11_cases x.env (s.receive B x.env x.req) with
    ⟨hlen, heq⟩ | ⟨hlen, hready, hscheduled⟩
  · obtain ⟨-, rfl⟩ := Prod.mk.inj (hcall'.symm.trans heq)
    have hsame : Component.reset.Same s ((s.receive B x.env x.req).negativeResponse
        kIncorrectMessageLengthOrInvalidFormat).2 :=
      (Component.same_negativeResponse _).2 (receive_same (by simp) (by simp))
    exact .inr ⟨fun hx => Nat.not_le.2 hlen hx.2, hsame⟩
  · rw [hcall'] at hready hscheduled
    exact .inl ⟨⟨hservice, hlen⟩, hready, hscheduled⟩

/-- A poll that evaluates no request changes the scheduled reset in its timers only. -/
theorem PollStep.reset (hs : Settings s) (h : PollStep B s p t) :
    (¬StartsZeroReset s p.request ∧ Component.reset.Same (s.pollTimers B p.env) t) ∨
      ∃ x u, x.req = p.request ∧ s.srv.requestInProgress = false ∧
        s.srv.notReadyToReceive = false ∧ ServerStep B (s.pollTimers B p.env) x u ∧
        Component.reset.Same u t := by
  cases h.cases hs with
  | wait hprogress ht =>
    exact .inl ⟨fun hzero => by simp [hzero.1] at hprogress, ht ▸ .refl _ _⟩
  | answer hprogress ht =>
    obtain ⟨timer, rfl⟩ := ht
    exact .inl ⟨fun hzero => by simp [hzero.1] at hprogress,
      (same_acknowledged (by simp) timer).2 (.refl _ _)⟩
  | deaf _ hdeaf ht =>
    exact .inl ⟨fun hzero => by simp [hzero.2.1] at hdeaf, ht ▸ .refl _ _⟩
  | idle _ _ hlen ht =>
    refine .inl ⟨fun hzero => ?_, ht ▸ (same_peeked (by simp) _).2 (.refl _ _)⟩
    have hle : 2 ≤ p.request.len := hzero.2.2.1.2
    omega
  | evaluate hprogress hready _ x hreq u hstep ht =>
    exact .inr ⟨x, u, hreq, hprogress, hready, hstep,
      ht ▸ (same_inProgress (by simp)).2 (.refl _ _)⟩

/-- **What a poll does to a server that is deaf exactly while a reset is scheduled**: a careful one
keeps it so, and any other leaves it deaf without a reset scheduled. -/
theorem PollStep.deafness (hs : Settings s) (h : PollStep B s p t)
    (hinv : s.srv.notReadyToReceive = true ↔ s.srv.ecuResetScheduled ≠ 0) :
    (p.Careful s ∧ (t.srv.notReadyToReceive = true ↔ t.srv.ecuResetScheduled ≠ 0)) ∨
      (¬p.Careful s ∧ t.srv.notReadyToReceive = true ∧ t.srv.ecuResetScheduled = 0) := by
  rcases h.reset hs with ⟨hzero, hready, hscheduled, -⟩ |
    ⟨x, u, hreq, hprogress, hready, hstep, hready', hscheduled', -⟩
  · rw [hready, hscheduled, pollTimers_notReadyToReceive]
    by_cases hdue : ResetDue s p.env
    · exact .inr ⟨fun hcareful => hcareful.1 hdue, hinv.2 hdue.1, (pollTimers_of_due hdue).1⟩
    · obtain ⟨-, hscheduled, -⟩ := pollTimers_of_not_due (B := B) hdue
      rw [hscheduled]
      exact .inl ⟨⟨hdue, hzero⟩, hinv⟩
  · have hnone : s.srv.ecuResetScheduled = 0 := by
      by_contra hne
      simp [hinv.2 hne] at hready
    have hdue : ¬ResetDue s p.env := fun hdue => hdue.1 hnone
    rw [hready', hscheduled']
    rcases hstep.reset with ⟨hresets, hdeaf, htype⟩ | ⟨hresets, hready'', hscheduled'', -⟩
    · rw [hreq] at hresets htype
      rw [hdeaf, htype]
      by_cases hzero : p.request.resetType = 0
      · exact .inr ⟨fun hcareful => hcareful.2 ⟨hprogress, hready, hresets, hzero⟩, rfl, hzero⟩
      · exact .inl ⟨⟨hdue, fun hstarts => hzero hstarts.2.2.2⟩, iff_of_true rfl hzero⟩
    · rw [hreq] at hresets
      obtain ⟨-, hscheduled, -⟩ := pollTimers_of_not_due (B := B) hdue
      rw [hready'', hscheduled'', pollTimers_notReadyToReceive, hscheduled]
      exact .inl ⟨⟨hdue, fun hstarts => hresets hstarts.2.2.1⟩, hinv⟩

/-! ### Runs -/

theorem CarefulRun.deafness (h : CarefulRun B tr s) :
    Settings s ∧ (s.srv.notReadyToReceive = true ↔ s.srv.ecuResetScheduled ≠ 0) := by
  refine Run.invariant (P := fun _ s => Settings s ∧
    (s.srv.notReadyToReceive = true ↔ s.srv.ecuResetScheduled ≠ 0)) ?_ ?_ h
  · rintro s ⟨env, fs, rfl⟩
    exact ⟨settings_udsServerInit env fs, by simp [udsServerInit]⟩
  · rintro tr s p t _ ⟨hs, hinv⟩ ⟨hstep, hcareful⟩
    refine ⟨hs.pollStep hstep, ?_⟩
    rcases hstep.deafness hs hinv with ⟨-, hinv'⟩ | ⟨hnot, -⟩
    · exact hinv'
    · exact absurd hcareful hnot

/-- **When the server recovers.** In every state of a run without resets that are performed and
without resets of the type zero, a deaf server has a reset scheduled, and a poll after the time of
the reset reaches `HandleDoScheduledReset`. A further poll keeps it so if and only if it is again
none of the two. -/
theorem recovers_iff (h : CarefulRun B tr s) :
    s.Recovers ∧
      (s.srv.notReadyToReceive = true → ∀ env, udsTimeAfter (env.udsMillis 1) s.srv.ecuResetTimer →
        ∃ effects, (s.pollTimers B env).log = s.log ++ effects ∧
          .emit (.doScheduledReset s.srv.ecuResetScheduled) ∈ effects) ∧
      ∀ p t, PollStep B s p t → (t.Recovers ↔ p.Careful s) := by
  obtain ⟨hs, hinv⟩ := CarefulRun.deafness h
  refine ⟨hinv.1, fun hdeaf env htime => (pollTimers_of_due ⟨hinv.1 hdeaf, htime⟩).2, ?_⟩
  intro p t hstep
  rcases hstep.deafness hs hinv with ⟨hcareful, hinv'⟩ | ⟨hnot, hdeaf, hnone⟩
  · exact iff_of_true hinv'.1 hcareful
  · exact iff_of_false (fun hrecovers => hrecovers hdeaf hnone) hnot

/-- The server that has accepted a hard reset can still recover. -/
theorem recovers_iff_hardReset : ∃ tr s, CarefulRun ⟨65535, .test⟩ tr s ∧
    s.srv.notReadyToReceive = true ∧ s.srv.ecuResetScheduled ≠ 0 := by
  have hpoll : (udsServerInit (.fair 0) fun _ => none).udsServerPoll ⟨65535, .test⟩ (.fair 0)
      (.fair 0) (.ofBytes [0x11, 0x01] (by simp) fun _ => 0) = .ok (_, _) := rfl
  have hrun : CarefulRun ⟨65535, .test⟩ [⟨.fair 0, .fair 0, _, _⟩] _ :=
    (Run.start ⟨.fair 0, fun _ => none, rfl⟩).snoc
      ⟨hpoll, fun hdue => hdue.1 rfl, fun hzero => absurd hzero.2.2.2 (by decide)⟩
  exact ⟨_, _, hrun, rfl, (recovers_iff hrun).1 rfl⟩

/-- The server that has accepted a reset of the type zero is deaf without a reset scheduled. -/
theorem deaf_for_good :
    ¬∀ (B : Build) (tr : List Poll) (s : Sys), PollRun B tr s → s.Recovers := by
  intro hclaim
  obtain ⟨tr, s, hrun, hdeaf⟩ := exists_run_of_polls ⟨65535, .test⟩ (.fair 0) (fun _ => none)
    [(.fair 0, .fair 0, .ofBytes [0x11, 0x00] (by simp) fun _ => 0)] (fun _ s => ¬s.Recovers)
    (by decide +kernel)
  exact hdeaf (hclaim _ _ _ hrun)

end EcuUpgrade
