import EcuUpgrade.Server.Polls

/-!
# Suppressed responses

`evaluateServiceResponse` drops the positive response to a request with the suppress bit: it leaves
a response of length zero. `UDSServerPoll` takes no notice of the length. When the time to answer
has come, it hands the response to `UDSTpSend`, and `DoipTpSend` hands it on, so that the tester is
sent an empty diagnostic message where it should be sent none.

## Main definitions

* `doipTpSend`, `Poll.payloads`: what is handed to `sendDiagnosticPayload`.
* `Awaits`: the request that the next acknowledgement completes.

## Main results

* `PollRun.awaits`: the response to this request is the one in the send buffer.
* `suppressed_is_transmitted`: no suppressed response is kept back.
* `not_suppressed`: an empty message is sent for a `TesterPresent` with the suppress bit.
-/

namespace EcuUpgrade

open ResponseCode Runs

/-- A call of `sendDiagnosticPayload`. -/
structure DiagnosticPayload where
  sourceAddress : UInt16
  data : Bytes
  deriving DecidableEq, Repr

/-- `DoipTpSend`: what it hands to `sendDiagnosticPayload`, and what it returns. -/
def doipTpSend (logicalServerAddr : UInt16) (buf : Bytes) : DiagnosticPayload × ℕ :=
  (⟨logicalServerAddr, buf⟩, buf.length)

/-- The call of `sendDiagnosticPayload` in an event of a poll. -/
def PollEvent.payload (logicalServerAddr : UInt16) : PollEvent → Option DiagnosticPayload
  | .send response => some (doipTpSend logicalServerAddr response).1
  | _ => none

/-- The calls of `sendDiagnosticPayload` in a poll. -/
def Poll.payloads (logicalServerAddr : UInt16) (p : Poll) : List DiagnosticPayload :=
  p.events.filterMap (PollEvent.payload logicalServerAddr)

/-- The event acknowledges the receive buffer. -/
def PollEvent.acknowledges : PollEvent → Bool
  | .ackRecv => true
  | _ => false

/-- The poll completes a request. -/
def Poll.completes (p : Poll) : Bool := p.events.any PollEvent.acknowledges

/-- The request was evaluated, and since then no other one was, and none was completed. -/
def Awaits (tr : List Poll) (x : Exchange) : Prop :=
  Since (fun p => x ∈ p.exchanges) (fun p => p.exchanges ≠ [] ∨ p.completes = true) tr

variable {B : Build} {env env' : Env} {s t : Sys} {q : Request} {x : Exchange} {p : Poll}
  {tr : List Poll}

/-! ### The request in progress -/

theorem awaits_of_mem (h : x ∈ p.exchanges) : Awaits (tr ++ [p]) x := since_snoc.2 (.inl h)

/-- The request was not evaluated in a poll without an evaluation. -/
theorem Awaits.of_snoc (h : Awaits (tr ++ [p]) x) (hp : p.exchanges = []) : Awaits tr x := by
  rcases since_snoc.1 h with hx | ⟨-, h⟩
  · rw [hp] at hx
    cases hx
  · exact h

/-- **The response to the request that is to be completed next is the one in the send buffer.** -/
theorem PollRun.awaits (h : PollRun B tr s) : ∀ x, Awaits tr x →
    s.srv.requestInProgress = true ∧ s.srv.r.sendBuf = x.sent := by
  refine Run.invariant (P := fun tr s => ∀ x, Awaits tr x →
    s.srv.requestInProgress = true ∧ s.srv.r.sendBuf = x.sent) ?_ ?_ h
  · intro s _ x hx
    exact absurd hx (not_since_nil _ _)
  · intro tr s p t hrun ih hstep x hx
    cases hstep.cases (PollRun.settings hrun) with
    | wait hprogress ht hevents =>
      obtain ⟨-, hsend⟩ := ih x (hx.of_snoc (by simp [Poll.exchanges, hevents]))
      rw [ht, pollTimers_requestInProgress, pollTimers_sendBuf]
      exact ⟨hprogress, hsend⟩
    | answer _ _ hevents =>
      -- the request is completed
      have hcompletes : p.completes = true := by
        rw [Poll.completes, hevents]
        rfl
      rcases since_snoc.1 hx with hx | ⟨hnot, -⟩
      · simp [Poll.exchanges, hevents, PollEvent.exchange] at hx
      · exact absurd (.inr hcompletes) hnot
    | deaf hprogress _ _ hevents =>
      obtain ⟨hbusy, -⟩ := ih x (hx.of_snoc (by simp [Poll.exchanges, hevents]))
      cases hprogress.symm.trans hbusy
    | idle hprogress _ _ _ hevents =>
      obtain ⟨hbusy, -⟩ := ih x (hx.of_snoc (by simp [Poll.exchanges, hevents,
        PollEvent.exchange]))
      cases hprogress.symm.trans hbusy
    | evaluate _ _ _ y _ u hserve ht hevents =>
      have hexchanges : p.exchanges = [y] := by
        rw [Poll.exchanges, hevents]
        rfl
      rcases since_snoc.1 hx with hx | ⟨hnot, -⟩
      · rw [hexchanges, List.mem_singleton] at hx
        rw [ht, hx]
        exact ⟨rfl, hserve.2.symm⟩
      · exact absurd (.inl (by simp [hexchanges])) hnot

/-- A poll completes the request in progress once the time to answer has come. -/
theorem udsServerPoll_answers (hs : Settings s) (hprogress : s.srv.requestInProgress = true)
    (hlate : udsTimeAfter (env.udsMillis 3) s.srv.p2Timer = true) (env' : Env) (q : Request) :
    ∃ t, s.udsServerPoll B env env' q = .ok (t, [.send s.srv.r.sendBuf, .ackRecv]) := by
  obtain ⟨-, -, -, htimer, -⟩ : Component.settings.Same s (s.pollTimers B env) :=
    pollTimers_same (by simp) env s
  rw [udsServerPoll_of_settings hs, if_pos hprogress, htimer, if_pos hlate]
  exact ⟨_, rfl⟩

/-- **A poll that completes a request hands its response on**, whatever its length. -/
theorem PollStep.payloads (hs : Settings s) (h : PollStep B s p t) (hp : p.completes = true)
    (logicalServerAddr : UInt16) :
    p.payloads logicalServerAddr = [⟨logicalServerAddr, s.srv.r.sendBuf⟩] := by
  cases h.cases hs with
  | wait _ _ hevents => simp [Poll.completes, hevents] at hp
  | answer _ _ hevents =>
    rw [Poll.payloads, hevents]
    rfl
  | deaf _ _ _ hevents => simp [Poll.completes, hevents] at hp
  | idle _ _ _ _ hevents => simp [Poll.completes, hevents, PollEvent.acknowledges] at hp
  | evaluate _ _ _ _ _ _ _ _ hevents =>
    simp [Poll.completes, hevents, PollEvent.acknowledges] at hp

/-- One millisecond later than a time. -/
def Env.justAfter (timer : UInt32) : Env := .fair (timer + 1).toNat

theorem udsTimeAfter_justAfter (timer : UInt32) (k : ℕ) :
    udsTimeAfter ((Env.justAfter timer).udsMillis k) timer = true := by
  have hmillis : (Env.justAfter timer).udsMillis k = timer + 1 := UInt32.ofNat_toNat
  have hdiff : timer - (timer + 1) = -1 := by grind
  rw [udsTimeAfter, hmillis, hdiff]
  rfl

/-! ### Suppressed responses -/

/-- **No suppressed response is kept back.** In every run, a request whose evaluation left a
response of length zero can be completed, and every poll that completes it sends one diagnostic
message for it, which is empty. -/
theorem suppressed_is_transmitted (h : PollRun B tr s) (hx : Awaits tr x) (hsup : x.sent = [])
    (logicalServerAddr : UInt16) :
    (∃ p t, PollStep B s p t ∧ p.completes = true) ∧
      ∀ p t, PollStep B s p t → p.completes = true →
        p.payloads logicalServerAddr = [⟨logicalServerAddr, []⟩] := by
  have hs : Settings s := PollRun.settings h
  obtain ⟨hprogress, hsend⟩ := PollRun.awaits h x hx
  rw [hsup] at hsend
  constructor
  · have hlate := udsTimeAfter_justAfter s.srv.p2Timer 3
    obtain ⟨t, ht⟩ := udsServerPoll_answers (B := B) hs hprogress hlate (.fair 0) x.req
    exact ⟨⟨_, _, _, _⟩, t, ht, rfl⟩
  · intro p t hstep hp
    rw [hstep.payloads hs hp, hsend]

/-- A `TesterPresent` with the suppress bit is in progress. -/
theorem exists_suppressed : ∃ (tr : List Poll) (s : Sys) (x : Exchange),
    PollRun ⟨65535, .test⟩ tr s ∧ Awaits tr x ∧
      bytesAt x.req.buf 0 x.req.len = [0x3E, 0x80] ∧ x.sent = [] := by
  obtain ⟨events, s, hstep, hp⟩ := exists_pollStep ⟨65535, .test⟩
    (udsServerInit (.fair 0) fun _ => none) (.fair 1) (.fair 1)
    (.ofBytes [0x3E, 0x80] (by decide) fun _ => 0)
    (fun p _ => p.exchanges.map (fun x => (bytesAt x.req.buf 0 x.req.len, x.sent)) =
      [([0x3E, 0x80], [])]) (by decide +kernel)
  obtain ⟨x, hx, hfields⟩ := List.map_eq_singleton_iff.1 (of_decide_eq_true hp)
  obtain ⟨hreq, hsup⟩ := Prod.mk.inj hfields
  refine ⟨[] ++ [_], s, x, (Run.start ⟨_, _, rfl⟩).snoc hstep, ?_, hreq, hsup⟩
  refine awaits_of_mem ?_
  rw [hx]
  exact List.mem_singleton_self x

/-- The poll that completes this request sends an empty message. -/
theorem suppressed_is_transmitted_testerPresent : ∃ (s t : Sys) (p : Poll),
    PollStep ⟨65535, .test⟩ s p t ∧ p.completes = true ∧ p.payloads 0 = [⟨0, []⟩] := by
  obtain ⟨tr, s, x, hrun, hx, -, hsup⟩ := exists_suppressed
  obtain ⟨⟨p, t, hstep, hp⟩, hpayloads⟩ := suppressed_is_transmitted hrun hx hsup 0
  exact ⟨s, t, p, hstep, hp, hpayloads p t hstep hp⟩

/-- The suppressed response to a `TesterPresent` is transmitted. -/
theorem not_suppressed : ∃ (tr : List Poll) (s t : Sys) (x : Exchange) (p : Poll),
    PollRun ⟨65535, .test⟩ tr s ∧ Awaits tr x ∧
      bytesAt x.req.buf 0 x.req.len = [0x3E, 0x80] ∧ x.sent = [] ∧
        PollStep ⟨65535, .test⟩ s p t ∧ p.completes = true ∧ p.payloads 0 ≠ [] := by
  obtain ⟨tr, s, x, hrun, hx, hreq, hsup⟩ := exists_suppressed
  have hs : Settings s := PollRun.settings hrun
  obtain ⟨t, ht⟩ := udsServerPoll_answers (B := ⟨65535, .test⟩) hs (PollRun.awaits hrun x hx).1
    (udsTimeAfter_justAfter s.srv.p2Timer 3) (.fair 0) x.req
  have hstep : PollStep ⟨65535, .test⟩ s ⟨_, _, _, _⟩ t := ht
  refine ⟨tr, s, t, x, _, hrun, hx, hreq, hsup, hstep, rfl, ?_⟩
  rw [hstep.payloads hs rfl]
  simp

end EcuUpgrade
