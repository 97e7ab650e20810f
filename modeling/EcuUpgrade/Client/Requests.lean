import EcuUpgrade.Client.Encoders
import EcuUpgrade.Security.RateLimit

/-!
# The life of a request

The request state machine of the client is a requester: whatever the transport returns, each call
does what the steps of a requester do. A response answers a request if it is the negative response
to its service, or the positive one in its full length. Thus requests are concluded one after the
other, and a request does not expire before the times that the last session response has fixed.

## Main definitions

* `SentRequest.judge`: what a response is to a request.
* `ClientStep`, `ClientRun`: the calls of an application.
* `adopted`: the timings that the session responses have fixed.

## Main results

* `pollLowLevel_case`: what a poll does.
* `ClientRun.requester`: the client is a requester.
* `requests_are_concluded_in_order`, `requests_expire_after_their_deadline`.
-/

namespace EcuUpgrade

open Runs Requester

/-! ### Responses and requests -/

variable (a : SentRequest) (b : ReceivedResponse)

/-- A response is the negative one to the service of a request. -/
def SentRequest.Negates : Prop := 2 ≤ b.size ∧ b.buf 0 = 0x7F ∧ a.buf 0 = b.buf 1

/-- A response is the positive one to the service of a request. That to a reset repeats its type,
and that to a session control contains its timings. -/
def SentRequest.Affirms : Prop :=
  1 ≤ b.size ∧ b.buf 0 ≠ 0x7F ∧ (a.buf 0).toNat + 0x40 = (b.buf 0).toNat ∧
    (a.buf 0 = kSIDEcuReset → 2 ≤ b.size ∧ a.buf 1 = b.buf 1) ∧
    (a.buf 0 = kSIDDiagnosticSessionControl → 6 ≤ b.size)

instance : Decidable (a.Negates b) := by
  unfold SentRequest.Negates
  infer_instance

instance : Decidable (a.Affirms b) := by
  unfold SentRequest.Affirms
  infer_instance

/-- What a response is to a request: a negative one that says that the server needs more time puts
the deadline off. -/
def SentRequest.judge : Verdict :=
  if a.Negates b then
    if b.buf 2 = 0x78 then .pending
    else if hasOption a.options udsNegRespIsErr then .refused
    else .final
  else if a.Affirms b then .final
  else .refused

/-- No answer is awaited to a request: it is addressed functionally, or the positive response is
suppressed. -/
def SentRequest.Unanswered : Prop :=
  hasOption a.options udsFunctional = true ∨ hasOption a.options udsSuppressPosResp = true

/-! ### Runs -/

/-- A client, and the time of the last call. -/
structure TimedClient where
  client : UDSClientT
  time : ℕ

/-- The client after `UDSClientInit`. -/
def ClientStart (n : TimedClient) : Prop :=
  ∃ recvBuf sendBuf, n.client = UDSClientT.clientInit recvBuf sendBuf

/-- The application makes a request, polls the client, or sets its options. -/
inductive ClientStep (n : TimedClient) : List ClientAct → TimedClient → Prop
  | request (env : ClientEnv) (e : Encoder) (h : n.time ≤ env.millis) :
      ClientStep n (n.client.request env e).2.2 ⟨(n.client.request env e).2.1, env.millis⟩
  | poll (env : ClientEnv) (h : n.time ≤ env.millis) :
      ClientStep n (n.client.pollLowLevel env).2 ⟨(n.client.pollLowLevel env).1, env.millis⟩
  | setOptions (options defaultOptions : UInt8) :
      ClientStep n [] ⟨{ n.client with
        options := options
        defaultOptions := defaultOptions }, n.time⟩

/-- A run of the client, labelled with what its calls do. -/
abbrev ClientRun : List (List ClientAct) → TimedClient → Prop := Run ClientStart ClientStep

/-- What an act is to the requests. -/
def ClientAct.toEvent : ClientAct → Event SentRequest ReceivedResponse
  | .event e => e
  | _ => .silent

/-- What happened to the requests. -/
def events (tr : List (List ClientAct)) : List (Event SentRequest ReceivedResponse) :=
  tr.flatten.map ClientAct.toEvent

theorem events_snoc (tr : List (List ClientAct)) (acts : List ClientAct) :
    events (tr ++ [acts]) = events tr ++ acts.map ClientAct.toEvent := by
  simp [events]

/-- The timings that an event fixes: those in the response to a session control. -/
def fixedTimings : Event SentRequest ReceivedResponse → Option (UInt16 × UInt32)
  | .answer a b =>
    if b.buf 0 = 0x50 ∧ hasOption a.options udsIgnoreSrvTimings = false then
      some (word16 (b.buf 2) (b.buf 3), (word16 (b.buf 4) (b.buf 5)).toUInt32 * 10)
    else none
  | _ => none

/-- The timings in force after a history. -/
def adopted (evs : List (Event SentRequest ReceivedResponse)) : UInt16 × UInt32 :=
  ((evs.filterMap fixedTimings).getLast?).getD (udsClientDefaultP2Ms, udsClientDefaultP2StarMs)

variable {env : ClientEnv} {c c' : UDSClientT} {acts : List ClientAct}

/-! ### What a poll does -/

/-- The timings of a client. -/
def UDSClientT.timings (c : UDSClientT) : UInt16 × UInt32 := (c.p2Ms, c.p2StarMs)

/-- A poll to which nothing happens to the request: it waits, it fails to send the request or sends
it, it acknowledges a functional message, or it has found a response. -/
inductive SilentPoll (env : ClientEnv) (c c' : UDSClientT) (acts : List ClientAct) : Prop
  | wait (hstate : c'.state = c.state) (hne : c.state ≠ .processResponse) (hacts : acts = [])
  | unsent (hstate : c.state = .sending) (hstate' : c'.state = .sending) (ret : ℤ)
      (hret : ¬(0 < ret ∧ ret = c.sendSize.toNat)) (hacts : acts = [.send c.sent ret])
  | sent (hstate : c.state = .sending) (hstate' : c'.state = .awaitSendComplete)
      (hsize : 0 < c.sendSize.toNat) (hacts : acts = [.send c.sent c.sendSize.toNat])
  | skip (hstate : c.state = .awaitResponse) (hstate' : c'.state = .awaitResponse)
      (hfunctional : env.peekTaType = .functional) (hacts : acts = [.ackRecv])
  | peeked (hstate : c.state = .awaitResponse) (hstate' : c'.state = .processResponse)
      (hlen : 0 < env.peekLen)
      (hreceived : c'.received = ⟨env.peekBuf, UInt16.ofNat env.peekLen.toNat⟩) (hacts : acts = [])

theorem SilentPoll.toEvent_eq (h : SilentPoll env c c' acts) :
    ∀ act ∈ acts, act.toEvent = .silent := by
  cases h <;> simp_all [ClientAct.toEvent]

theorem SilentPoll.state_cases (h : SilentPoll env c c' acts) :
    c'.state = c.state ∨ c.state = .sending ∧ c'.state = .awaitSendComplete ∨
      c.state = .awaitResponse ∧ c'.state = .processResponse := by
  cases h <;> simp_all

/-- **What a poll does** to the request, with the state it leaves behind. -/
inductive PollOutcome (env : ClientEnv) (c c' : UDSClientT) (acts : List ClientAct) : Prop
  | silent (hsilent : SilentPoll env c c' acts) (htimer : c'.p2Timer = c.p2Timer)
      (htimings : c'.timings = c.timings)
  | await (hstate : c.state = .awaitSendComplete) (hstate' : c'.state = .awaitResponse)
      (hacts : acts = [.event (.await c.sent env.millis c.p2Ms.toNat)])
      (htimer : c'.p2Timer = env.udsMillis + c.p2Ms.toUInt32) (htimings : c'.timings = c.timings)
  | extend (hstate : c.state = .processResponse) (hstate' : c'.state = .awaitResponse)
      (hjudge : c.sent.judge c.received = .pending)
      (hacts : acts =
        [.ackRecv, .event (.extend c.sent c.received env.millis c.p2StarMs.toNat)])
      (htimer : c'.p2Timer = env.udsMillis + c.p2StarMs) (htimings : c'.timings = c.timings)
  | answer (hstate : c.state = .processResponse) (hstate' : c'.state = .idle)
      (hjudge : c.sent.judge c.received = .final)
      (hacts : acts = [.ackRecv, .event (.answer c.sent c.received)]) (herr : c'.err = .ok)
      (htimings : c'.timings = (fixedTimings (.answer c.sent c.received)).getD c.timings)
  | refuse (hstate : c.state = .processResponse) (hstate' : c'.state = .idle)
      (hjudge : c.sent.judge c.received = .refused)
      (hacts : acts = [.ackRecv, .event (.refuse c.sent c.received)]) (herr : c'.err ≠ .ok)
      (htimings : c'.timings = c.timings)
  | expire (hstate : c.state = .awaitResponse) (hstate' : c'.state = .idle)
      (hafter : udsTimeAfter env.udsMillis c.p2Timer = true)
      (hacts : acts = [.event (.expire c.sent env.millis)]) (herr : c'.err = .timeout)
      (htimings : c'.timings = c.timings)
  | drop (hstate : c.state = .awaitSendComplete ∨ c.state = .awaitResponse)
      (hstate' : c'.state = .idle) (hacts : acts = [.event (.drop c.sent)])
      (htimings : c'.timings = c.timings) (herr : c'.err = .ok → c.sent.Unanswered)

theorem pollSending_outcome (hstate : c.state = .sending) :
    PollOutcome env c (c.pollSending env).1 (c.pollSending env).2 := by
  unfold UDSClientT.pollSending
  dsimp only
  split_ifs with hfailed hbusy hsent
  · exact .silent (.unsent hstate hstate _ (by omega) rfl) rfl rfl
  · exact .silent (.unsent hstate hstate _ (by omega) rfl) rfl rfl
  · exact .silent (.sent hstate rfl (by omega) (hsent ▸ rfl)) rfl rfl
  · exact .silent (.unsent hstate hstate _ (by omega) rfl) rfl rfl

theorem pollAwaitSendComplete_outcome (hstate : c.state = .awaitSendComplete) :
    PollOutcome env c (c.pollAwaitSendComplete env).1 (c.pollAwaitSendComplete env).2 := by
  unfold UDSClientT.pollAwaitSendComplete
  split_ifs with _ hfunctional hsuppress
  · exact .drop (.inl hstate) rfl rfl rfl fun _ => .inl hfunctional
  · exact .silent (.wait rfl (by simp [hstate]) rfl) rfl rfl
  · exact .drop (.inl hstate) rfl rfl rfl fun _ => .inr hsuppress
  · exact .await hstate rfl rfl rfl rfl

theorem pollAwaitResponse_outcome (hstate : c.state = .awaitResponse) :
    PollOutcome env c (c.pollAwaitResponse env).1 (c.pollAwaitResponse env).2 := by
  unfold UDSClientT.pollAwaitResponse
  dsimp only
  split_ifs with hfunctional herror hnothing hafter
  · exact .silent (.skip hstate hstate hfunctional rfl) rfl rfl
  · exact .drop (.inr hstate) rfl rfl rfl (by simp)
  · exact .expire hstate rfl hafter rfl rfl rfl
  · exact .silent (.wait rfl (by simp [hstate]) rfl) rfl rfl
  · exact .silent (.peeked hstate rfl (by omega) rfl rfl) rfl rfl

/-! ### Validation -/

/-- **What `_ClientValidateResponse` accepts.** Only the length of the response to a session control
is looked at later. -/
theorem clientValidateResponse_eq_ok_iff : c.clientValidateResponse = .ok ↔
    c.sent.Negates c.received ∧
        (c.recvBuf 2 = 0x78 ∨ hasOption c.optionsCopy udsNegRespIsErr = false) ∨
      1 ≤ c.recvSize ∧ c.recvBuf 0 ≠ 0x7F ∧ (c.sendBuf 0).toNat + 0x40 = (c.recvBuf 0).toNat ∧
        (c.sendBuf 0 = kSIDEcuReset → 2 ≤ c.recvSize ∧ c.sendBuf 1 = c.recvBuf 1) := by
  have hone : c.recvSize < 1 ↔ ¬1 ≤ c.recvSize := UInt16.not_le.symm
  have htwo : c.recvSize < 2 ↔ ¬2 ≤ c.recvSize := UInt16.not_le.symm
  have hmono : 2 ≤ c.recvSize → 1 ≤ c.recvSize := by
    intro h
    exact UInt16.le_trans (by decide) h
  unfold UDSClientT.clientValidateResponse SentRequest.Negates UDSClientT.sent UDSClientT.received
  simp only [hone, htwo]
  by_cases hnegative : c.recvBuf 0 = 0x7F
  · simp only [hnegative, if_true]
    split_ifs <;> simp_all
  · simp only [hnegative, if_false]
    split_ifs <;> simp_all

/-- A response that is not accepted is judged so. -/
theorem judge_eq_refused (h : c.clientValidateResponse ≠ .ok) :
    c.sent.judge c.received = .refused := by
  rw [Ne, clientValidateResponse_eq_ok_iff, not_or, not_and, not_or, Bool.not_eq_false] at h
  unfold SentRequest.judge
  split_ifs with hnegates hpending herr haffirms
  · exact absurd hpending (h.1 hnegates).1
  · rfl
  · exact absurd (h.1 hnegates).2 herr
  · obtain ⟨hsize, hpositive, hsid, hreset, -⟩ := haffirms
    exact absurd ⟨hsize, hpositive, hsid, hreset⟩ h.2
  · rfl

/-- The client when it has accepted a response. -/
def UDSClientT.validated (c : UDSClientT) : UDSClientT := { c with err := .ok }

theorem finish_outcome (hstate : c.state = .processResponse)
    (hjudge : c.sent.judge c.received = .final)
    (hfixed : fixedTimings (.answer c.sent c.received) = none) :
    PollOutcome env c c.validated.finish.1 c.validated.finish.2 := by
  refine .answer hstate rfl hjudge rfl rfl ?_
  rw [hfixed]
  rfl

/-- A negative response, which is accepted. -/
theorem clientHandleResponse_negative (hstate : c.state = .processResponse)
    (hnegates : c.sent.Negates c.received)
    (haccepted : c.recvBuf 2 = 0x78 ∨ hasOption c.optionsCopy udsNegRespIsErr = false) :
    PollOutcome env c (c.validated.clientHandleResponse env).1
      (c.validated.clientHandleResponse env).2 := by
  have hnegative : c.validated.recvBuf 0 = 0x7F := hnegates.2.1
  have hother : c.recvBuf 0 ≠ 0x50 := fun h => absurd (h.symm.trans hnegates.2.1) (by decide)
  unfold UDSClientT.clientHandleResponse
  rw [if_pos hnegative]
  split_ifs with hpending
  · have hjudge : c.sent.judge c.received = .pending := by
      rw [SentRequest.judge, if_pos hnegates]
      exact if_pos hpending
    exact .extend hstate rfl hjudge rfl rfl rfl
  · refine finish_outcome hstate ?_ (if_neg fun h => hother h.1)
    have hoption : ¬hasOption c.sent.options udsNegRespIsErr = true := by
      rw [Bool.not_eq_true]
      exact haccepted.resolve_left hpending
    rw [SentRequest.judge, if_pos hnegates, if_neg hoption]
    exact if_neg hpending

/-- A positive response, which is accepted. -/
theorem clientHandleResponse_positive (hstate : c.state = .processResponse)
    (hsize : 1 ≤ c.recvSize) (hpositive : c.recvBuf 0 ≠ 0x7F)
    (hsid : (c.sendBuf 0).toNat + 0x40 = (c.recvBuf 0).toNat)
    (hreset : c.sendBuf 0 = kSIDEcuReset → 2 ≤ c.recvSize ∧ c.sendBuf 1 = c.recvBuf 1) :
    PollOutcome env c (c.validated.clientHandleResponse env).1
      (c.validated.clientHandleResponse env).2 := by
  have hnegates : ¬c.sent.Negates c.received := fun h => hpositive h.2.1
  have hsession : ((c.validated.recvBuf 0).toNat : ℤ) - 0x40 = kSIDDiagnosticSessionControl.toNat ↔
      c.sendBuf 0 = kSIDDiagnosticSessionControl := by
    rw [← UInt8.toNat_inj]
    change ((c.recvBuf 0).toNat : ℤ) - 0x40 = _ ↔ _
    omega
  have hfifty : c.recvBuf 0 = 0x50 ↔ c.sendBuf 0 = kSIDDiagnosticSessionControl := by
    rw [← UInt8.toNat_inj, ← UInt8.toNat_inj, ← hsid]
    exact Nat.add_right_cancel_iff (n := 0x40)
  have hfinal (hlong : c.sendBuf 0 = kSIDDiagnosticSessionControl → 6 ≤ c.recvSize) :
      c.sent.judge c.received = .final := by
    rw [SentRequest.judge, if_neg hnegates, if_pos ⟨hsize, hpositive, hsid, hreset, hlong⟩]
  have hpositive' : ¬c.validated.recvBuf 0 = 0x7F := hpositive
  unfold UDSClientT.clientHandleResponse
  rw [if_neg hpositive']
  split_ifs with hcontrol hshort hignore
  · have hrefused : ¬c.sent.Affirms c.received := fun h =>
      absurd (h.2.2.2.2 (hsession.1 hcontrol)) (UInt16.not_le.2 hshort)
    refine .refuse hstate rfl ?_ rfl (by simp) rfl
    rw [SentRequest.judge, if_neg hnegates, if_neg hrefused]
  · refine finish_outcome hstate (hfinal fun _ => UInt16.not_lt.1 hshort) (if_neg ?_)
    exact fun h => Bool.noConfusion (hignore.symm.trans h.2)
  · refine .answer hstate rfl (hfinal fun _ => UInt16.not_lt.1 hshort) rfl rfl ?_
    have hfixed : fixedTimings (.answer c.sent c.received) =
        some (word16 (c.recvBuf 2) (c.recvBuf 3),
          (word16 (c.recvBuf 4) (c.recvBuf 5)).toUInt32 * 10) :=
      if_pos ⟨hfifty.2 (hsession.1 hcontrol), Bool.eq_false_of_not_eq_true hignore⟩
    rw [hfixed]
    rfl
  · refine finish_outcome hstate (hfinal fun h => absurd (hsession.2 h) hcontrol) (if_neg ?_)
    exact fun h => hcontrol (hsession.2 (hfifty.1 h.1))

theorem pollProcessResponse_outcome (hstate : c.state = .processResponse) :
    PollOutcome env c (c.pollProcessResponse env).1 (c.pollProcessResponse env).2 := by
  unfold UDSClientT.pollProcessResponse
  dsimp only
  split_ifs with hok
  · rw [hok]
    rcases clientValidateResponse_eq_ok_iff.1 hok with ⟨hnegates, haccepted⟩ |
      ⟨hsize, hpositive, hsid, hreset⟩
    · exact clientHandleResponse_negative hstate hnegates haccepted
    · exact clientHandleResponse_positive hstate hsize hpositive hsid hreset
  · exact .refuse hstate rfl (judge_eq_refused hok) rfl hok rfl

/-- **What a poll does.** -/
theorem pollLowLevel_outcome (env : ClientEnv) (c : UDSClientT) :
    PollOutcome env c (c.pollLowLevel env).1 (c.pollLowLevel env).2 := by
  unfold UDSClientT.pollLowLevel
  split
  · next hstate => exact .silent (.wait rfl (by simp [hstate]) rfl) rfl rfl
  · next hstate => exact pollSending_outcome hstate
  · next hstate => exact pollAwaitSendComplete_outcome hstate
  · next hstate => exact pollAwaitResponse_outcome hstate
  · next hstate => exact pollProcessResponse_outcome hstate

/-- A request that a poll concludes without an error was answered, or no answer is awaited to it. -/
theorem PollOutcome.concluded (h : PollOutcome env c c' acts)
    {e : Event SentRequest ReceivedResponse} {a : SentRequest} (he : .event e ∈ acts)
    (ha : e.concluded? = some a) (hok : c'.err = .ok) :
    (∃ b, e = .answer a b) ∨ e = .drop a ∧ a.Unanswered := by
  cases h with
  | silent hsilent htimer htimings =>
    obtain rfl : e = .silent := hsilent.toEvent_eq _ he
    cases ha
  | await _ _ hacts => simp_all [Event.concluded?]
  | extend _ _ _ hacts => simp_all [Event.concluded?]
  | answer _ _ _ hacts =>
    obtain rfl : e = .answer c.sent c.received := by simpa [hacts] using he
    obtain rfl := Option.some.inj ha
    exact .inl ⟨_, rfl⟩
  | refuse _ _ _ _ herr => exact absurd hok herr
  | expire _ _ _ _ herr => cases herr.symm.trans hok
  | drop _ _ hacts _ herr =>
    obtain rfl : e = .drop c.sent := by simpa [hacts] using he
    obtain rfl := Option.some.inj ha
    exact .inr ⟨rfl, herr hok⟩

/-! ### What a request does -/

/-- **What the functions do that make a request**: they refuse, or they send the request. -/
inductive RequestOutcome (env : ClientEnv) (c c' : UDSClientT) (acts : List ClientAct) : Prop
  | refused (hacts : acts = []) (hstate : c'.state = c.state) (hopen : c.state ≠ .idle → c' = c)
      (htimings : c'.timings = c.timings)
  | made (d : UDSClientT) (hidle : c.state = .idle) (hstate : d.state = .sending)
      (htimings : d.timings = c.timings) (hc' : c' = (d.pollLowLevel env).1)
      (hacts : acts = .event (.accept d.sent) :: (d.pollLowLevel env).2)

/-- A request is refused before the send buffer is filled. -/
theorem preRequestCheck_cases (env : ClientEnv) (c : UDSClientT) :
    c.preRequestCheck env = (.busy, c) ∧ c.state ≠ .idle ∨
      c.state = .idle ∧ (c.preRequestCheck env).2.state = .idle ∧
        (c.preRequestCheck env).2.timings = c.timings := by
  unfold UDSClientT.preRequestCheck
  by_cases hidle : c.state = .idle
  · right
    rw [if_neg (not_not.2 hidle)]
    refine ⟨hidle, ?_⟩
    dsimp only
    split
    · exact ⟨rfl, rfl⟩
    · split_ifs <;> exact ⟨rfl, rfl⟩
  · exact .inl ⟨if_pos hidle, hidle⟩

theorem request_outcome (env : ClientEnv) (e : Encoder) (c : UDSClientT) :
    RequestOutcome env c (c.request env e).2.1 (c.request env e).2.2 := by
  unfold UDSClientT.request
  rcases preRequestCheck_cases env c with ⟨hbusy, hopen⟩ | ⟨hidle, hchecked, htimings⟩
  · rw [hbusy]
    exact .refused rfl rfl (fun _ => rfl) rfl
  · have hclosed (c' : UDSClientT) : c.state ≠ .idle → c' = c := fun h => absurd hidle h
    split
    · next checked heq =>
      rw [heq] at hchecked htimings
      obtain ⟨buf, size, hfill⟩ := e.writes checked
      split
      · next filled hok =>
        rw [hok] at hfill
        obtain rfl : filled = _ := hfill
        exact .made (UDSClientT.beginRequest { checked with sendBuf := buf, sendSize := size })
          hidle rfl htimings rfl rfl
      · next err filled _ hfailed =>
        rw [hfailed] at hfill
        obtain rfl : filled = _ := hfill
        exact .refused rfl (hchecked.trans hidle.symm) (hclosed _) htimings
    · next err checked _ heq =>
      rw [heq] at hchecked htimings
      exact .refused rfl (hchecked.trans hidle.symm) (hclosed _) htimings

/-! ### The client as a requester -/

/-- A client is in a state of a requester. The deadline is one that its clock has not passed by more
than half a period. -/
def Stands (n : TimedClient) : State SentRequest → Prop
  | .idle => n.client.state = .idle
  | .sending a =>
    a = n.client.sent ∧ (n.client.state = .sending ∨ n.client.state = .awaitSendComplete)
  | .awaiting a deadline =>
    a = n.client.sent ∧ (n.client.state = .processResponse ∨ n.client.state = .awaitResponse ∧
      ∃ start period, deadline = start + period ∧ period < 2 ^ 31 ∧ start ≤ n.time ∧
        n.client.p2Timer = UInt32.ofNat start + UInt32.ofNat period)

variable {n n' : TimedClient} {s : State SentRequest} {tr : List (List ClientAct)}

theorem Stands.later {time : ℕ} (h : Stands n s) (htime : n.time ≤ time) :
    Stands ⟨n.client, time⟩ s := by
  cases s with
  | idle => exact h
  | sending a => exact h
  | awaiting a deadline =>
    obtain ⟨ha, hstate | ⟨hstate, start, period, hdeadline, hperiod, hstart, htimer⟩⟩ := h
    · exact ⟨ha, .inl hstate⟩
    · exact ⟨ha, .inr ⟨hstate, start, period, hdeadline, hperiod, hstart.trans htime, htimer⟩⟩

theorem Stands.of_idle (h : Stands n s) (hstate : n.client.state = .idle) : s = .idle := by
  cases s with
  | idle => rfl
  | sending a => simp [Stands, hstate] at h
  | awaiting a deadline => simp [Stands, hstate] at h

theorem Stands.of_sending (h : Stands n s)
    (hstate : n.client.state = .sending ∨ n.client.state = .awaitSendComplete) :
    s = .sending n.client.sent := by
  cases s with
  | idle =>
    have hidle : n.client.state = .idle := h
    simp [hidle] at hstate
  | sending a => rw [h.1]
  | awaiting a deadline =>
    obtain ⟨-, hawaits | ⟨hawaits, -⟩⟩ := h
    all_goals simp [hawaits] at hstate

theorem Stands.of_awaiting (h : Stands n s)
    (hstate : n.client.state = .awaitResponse ∨ n.client.state = .processResponse) :
    ∃ deadline, s = .awaiting n.client.sent deadline ∧ (n.client.state = .awaitResponse →
      ∃ start period, deadline = start + period ∧ period < 2 ^ 31 ∧ start ≤ n.time ∧
        n.client.p2Timer = UInt32.ofNat start + UInt32.ofNat period) := by
  cases s with
  | idle =>
    have hidle : n.client.state = .idle := h
    simp [hidle] at hstate
  | sending a =>
    obtain ⟨-, hsends | hsends⟩ := h
    all_goals simp [hsends] at hstate
  | awaiting a deadline =>
    obtain ⟨rfl, hprocess | ⟨-, htimer⟩⟩ := h
    · exact ⟨deadline, rfl, fun hawaits => by simp [hprocess] at hawaits⟩
    · exact ⟨deadline, rfl, fun _ => htimer⟩

/-- **A poll is a path of the requester.** -/
theorem Stands.poll (h : Stands ⟨c, env.millis⟩ s) (hstar : c.p2StarMs.toNat < 2 ^ 31) :
    ∃ s', Runs.Path (Step SentRequest.judge) s ((c.pollLowLevel env).2.map ClientAct.toEvent) s' ∧
      Stands ⟨(c.pollLowLevel env).1, env.millis⟩ s' := by
  have hsent := pollLowLevel_sent env c
  cases pollLowLevel_outcome env c with
  | silent hsilent htimer htimings =>
    refine ⟨s, path_silent (by simpa using hsilent.toEvent_eq), ?_⟩
    have hstate := hsilent.state_cases
    cases s with
    | idle =>
      have hidle : c.state = .idle := h
      rcases hstate with hstate | ⟨hstate, -⟩ | ⟨hstate, -⟩
      · exact hstate.trans hidle
      · cases hidle.symm.trans hstate
      · cases hidle.symm.trans hstate
    | sending a =>
      obtain ⟨ha, hsends⟩ := h
      refine ⟨ha.trans hsent.symm, ?_⟩
      rcases hstate with hstate | ⟨-, hstate⟩ | ⟨hstate, -⟩
      · exact hstate.symm ▸ hsends
      · exact .inr hstate
      · simp [hstate] at hsends
    | awaiting a deadline =>
      obtain ⟨ha, hawaits⟩ := h
      refine ⟨ha.trans hsent.symm, ?_⟩
      rw [htimer]
      rcases hstate with hstate | ⟨hstate, -⟩ | ⟨-, hstate⟩
      · exact hstate.symm ▸ hawaits
      · simp [hstate] at hawaits
      · exact .inl hstate
  | await hstate hstate' hacts htimer htimings =>
    obtain rfl := h.of_sending (.inr hstate)
    rw [hacts]
    refine ⟨.awaiting c.sent (env.millis + c.p2Ms.toNat), .cons (.await _ _ _) (.nil _),
      hsent.symm, .inr ⟨hstate', _, _, rfl, ?_, le_rfl, ?_⟩⟩
    · exact c.p2Ms.toNat_lt.trans (by decide)
    · rw [htimer, ← UInt32.ofNat_uInt16ToNat]
      rfl
  | extend hstate hstate' hjudge hacts htimer htimings =>
    obtain ⟨deadline, rfl, -⟩ := h.of_awaiting (.inr hstate)
    rw [hacts]
    refine ⟨.awaiting c.sent (env.millis + c.p2StarMs.toNat),
      .cons (.silent _) (.cons (.extend _ _ _ hjudge) (.nil _)),
      hsent.symm, .inr ⟨hstate', _, _, rfl, hstar, le_rfl, ?_⟩⟩
    rw [htimer, UInt32.ofNat_toNat]
    rfl
  | answer hstate hstate' hjudge hacts herr htimings =>
    obtain ⟨deadline, rfl, -⟩ := h.of_awaiting (.inr hstate)
    rw [hacts]
    exact ⟨.idle, .cons (.silent _) (.cons (.answer _ hjudge) (.nil _)), hstate'⟩
  | refuse hstate hstate' hjudge hacts herr htimings =>
    obtain ⟨deadline, rfl, -⟩ := h.of_awaiting (.inr hstate)
    rw [hacts]
    exact ⟨.idle, .cons (.silent _) (.cons (.refuse _ hjudge) (.nil _)), hstate'⟩
  | expire hstate hstate' hafter hacts herr htimings =>
    obtain ⟨deadline, rfl, hdeadline⟩ := h.of_awaiting (.inl hstate)
    obtain ⟨start, period, rfl, hperiod, hstart, htimer⟩ := hdeadline hstate
    rw [hacts]
    refine ⟨.idle, .cons (.expire ?_) (.nil _), hstate'⟩
    rw [htimer] at hafter
    exact lt_of_udsTimeAfter hperiod hstart hafter
  | drop hstate hstate' hacts htimings _ =>
    rw [hacts]
    rcases hstate with hstate | hstate
    · obtain rfl := h.of_sending (.inr hstate)
      exact ⟨.idle, .cons (.dropSending _) (.nil _), hstate'⟩
    · obtain ⟨deadline, rfl, -⟩ := h.of_awaiting (.inl hstate)
      exact ⟨.idle, .cons (.dropAwaiting _ _) (.nil _), hstate'⟩

/-! ### The timings -/

/-- The period of a deadline is one of the timings in force. -/
def Periods (pre : List (Event SentRequest ReceivedResponse)) :
    Event SentRequest ReceivedResponse → Prop
  | .await _ _ period => period = (adopted pre).1.toNat
  | .extend _ _ _ period => period = (adopted pre).2.toNat
  | _ => True

/-- The timings of a client are those in force, as were the periods of all deadlines. -/
structure Timed (evs : List (Event SentRequest ReceivedResponse)) (c : UDSClientT) : Prop where
  timings : c.timings = adopted evs
  star_lt : c.p2StarMs.toNat < 2 ^ 31
  periods : Everywhere Periods evs

theorem adopted_snoc (evs : List (Event SentRequest ReceivedResponse))
    (e : Event SentRequest ReceivedResponse) :
    adopted (evs ++ [e]) = (fixedTimings e).getD (adopted evs) := by
  unfold adopted
  cases hfixed : fixedTimings e <;> simp [hfixed]

variable {evs : List (Event SentRequest ReceivedResponse)} {e : Event SentRequest ReceivedResponse}

theorem fixedTimings_star_lt {timings : UInt16 × UInt32} (h : fixedTimings e = some timings) :
    timings.2.toNat < 2 ^ 31 := by
  cases e with
  | answer a b =>
    obtain ⟨-, htimings⟩ := Option.ite_none_right_eq_some.1 h
    obtain rfl := Option.some.inj htimings
    have hword := (word16 (b.buf 4) (b.buf 5)).toNat_lt
    simp only [UInt32.toNat_mul, UInt16.toNat_toUInt32]
    exact (Nat.mod_le _ _).trans_lt (by simp; omega)
  | _ => cases h

/-- An event, with the timings that it fixes. -/
theorem Timed.snoc (h : Timed evs c) (hperiods : Periods evs e)
    (htimings : c'.timings = (fixedTimings e).getD c.timings) : Timed (evs ++ [e]) c' := by
  refine ⟨?_, ?_, everywhere_snoc.2 ⟨h.periods, hperiods⟩⟩
  · rw [htimings, adopted_snoc, h.timings]
  · have hstar : c'.p2StarMs = c'.timings.2 := rfl
    rw [hstar, htimings]
    cases hfixed : fixedTimings e with
    | none => exact h.star_lt
    | some timings => exact fixedTimings_star_lt hfixed

theorem Timed.silent (h : Timed evs c) {acts : List ClientAct}
    (hacts : ∀ act ∈ acts, act.toEvent = .silent) (htimings : c'.timings = c.timings) :
    Timed (evs ++ acts.map ClientAct.toEvent) c' := by
  induction acts using List.reverseRecOn with
  | nil =>
    have hstar : c'.p2StarMs = c'.timings.2 := rfl
    refine ⟨?_, ?_, ?_⟩
    · rw [htimings, h.timings, List.map_nil, List.append_nil]
    · rw [hstar, htimings]
      exact h.star_lt
    · simpa using h.periods
  | append_singleton acts act ih =>
    have hlast : act.toEvent = .silent := hacts act (by simp)
    have hinit := ih fun act' hact => hacts act' (by simp [hact])
    rw [List.map_append, List.map_singleton, hlast, ← List.append_assoc]
    exact hinit.snoc trivial rfl

theorem Timed.poll (h : Timed evs c) (env : ClientEnv) :
    Timed (evs ++ (c.pollLowLevel env).2.map ClientAct.toEvent) (c.pollLowLevel env).1 := by
  have htimings := h.timings
  have hack : Timed (evs ++ [.silent]) c := h.snoc trivial rfl
  have hsame : adopted (evs ++ [.silent]) = adopted evs := adopted_snoc _ _
  cases pollLowLevel_outcome env c with
  | silent hsilent htimer htimings => exact h.silent hsilent.toEvent_eq htimings
  | await hstate hstate' hacts htimer htimings' =>
    rw [hacts]
    have hperiod : c.p2Ms.toNat = (adopted evs).1.toNat := by
      rw [← htimings]
      rfl
    exact h.snoc hperiod htimings'
  | extend hstate hstate' hjudge hacts htimer htimings' =>
    rw [hacts, List.map_cons, List.append_cons]
    have hperiod : c.p2StarMs.toNat = (adopted (evs ++ [.silent])).2.toNat := by
      rw [hsame, ← htimings]
      rfl
    exact hack.snoc hperiod htimings'
  | answer hstate hstate' hjudge hacts herr htimings' =>
    rw [hacts, List.map_cons, List.append_cons]
    exact hack.snoc trivial htimings'
  | refuse hstate hstate' hjudge hacts herr htimings' =>
    rw [hacts, List.map_cons, List.append_cons]
    exact hack.snoc trivial htimings'
  | expire hstate hstate' hafter hacts herr htimings' =>
    rw [hacts]
    exact h.snoc trivial htimings'
  | drop hstate hstate' hacts htimings' _ =>
    rw [hacts]
    exact h.snoc trivial htimings'

/-! ### Runs -/

/-- What a run has done to the requests. -/
structure Lives (evs : List (Event SentRequest ReceivedResponse)) (n : TimedClient) : Prop where
  requester : ∃ s, RequesterRun SentRequest.judge evs s ∧ Stands n s
  timed : Timed evs n.client

theorem Lives.poll (h : Lives evs n) (env : ClientEnv) (htime : n.time ≤ env.millis) :
    Lives (evs ++ (n.client.pollLowLevel env).2.map ClientAct.toEvent)
      ⟨(n.client.pollLowLevel env).1, env.millis⟩ := by
  obtain ⟨s, hrun, hstands⟩ := h.requester
  obtain ⟨s', hpath, hstands'⟩ := (hstands.later htime).poll h.timed.star_lt
  exact ⟨⟨s', hrun.append hpath, hstands'⟩, h.timed.poll env⟩

theorem Lives.request (h : Lives evs n) (env : ClientEnv) (e : Encoder)
    (htime : n.time ≤ env.millis) :
    Lives (evs ++ (n.client.request env e).2.2.map ClientAct.toEvent)
      ⟨(n.client.request env e).2.1, env.millis⟩ := by
  obtain ⟨s, hrun, hstands⟩ := h.requester
  cases request_outcome env e n.client with
  | refused hacts hstate hopen htimings =>
    rw [hacts, List.map_nil, List.append_nil]
    refine ⟨⟨s, hrun, ?_⟩, ?_⟩
    · by_cases hidle : n.client.state = .idle
      · obtain rfl := hstands.of_idle hidle
        exact hstate.trans hidle
      · rw [hopen hidle]
        exact hstands.later htime
    · have hsame : Timed (evs ++ [].map ClientAct.toEvent) _ := h.timed.silent (by simp) htimings
      simpa using hsame
  | made d hidle hstate htimings hc' hacts =>
    have haccept : Lives (evs ++ [.accept d.sent]) ⟨d, n.time⟩ := by
      refine ⟨⟨.sending d.sent, hrun.snoc ?_, rfl, .inl hstate⟩, h.timed.snoc trivial htimings⟩
      rw [hstands.of_idle hidle]
      exact .accept d.sent
    rw [hacts, hc', List.map_cons, List.append_cons]
    exact haccept.poll env htime

/-- **The client is a requester.** -/
theorem ClientRun.lives (h : ClientRun tr n) : Lives (events tr) n := by
  refine Run.invariant (P := fun tr n => Lives (events tr) n) ?_ ?_ h
  · rintro n ⟨recvBuf, sendBuf, hinit⟩
    have hidle : n.client.state = .idle := by
      rw [hinit]
      rfl
    refine ⟨⟨.idle, .start rfl, hidle⟩, ?_, ?_, everywhere_nil _⟩
    · rw [hinit]
      rfl
    · rw [hinit]
      change (1500 : UInt32).toNat < 2 ^ 31
      decide
  · intro tr n acts n' _ hlives hstep
    rw [events_snoc]
    cases hstep with
    | request env e htime => exact hlives.request env e htime
    | poll env htime => exact hlives.poll env htime
    | setOptions options defaultOptions =>
      obtain ⟨s, hrun, hstands⟩ := hlives.requester
      rw [List.map_nil, List.append_nil]
      refine ⟨⟨s, hrun, ?_⟩, hlives.timed.timings, hlives.timed.star_lt, hlives.timed.periods⟩
      cases s <;> exact hstands

/-- The request that is not concluded yet. -/
def UDSClientT.openRequest (c : UDSClientT) : List SentRequest :=
  if c.state = .idle then [] else [c.sent]

theorem Stands.held (h : Stands n s) : s.held = n.client.openRequest := by
  unfold UDSClientT.openRequest
  split_ifs with hidle
  · rw [h.of_idle hidle]
    rfl
  · cases s with
    | idle => exact absurd h hidle
    | sending a => rw [State.held, h.1]
    | awaiting a deadline => rw [State.held, h.1]

/-- A request that a call concludes without an error was answered, or no answer is awaited to it. -/
theorem ClientStep.concluded (h : ClientStep n acts n') {e : Event SentRequest ReceivedResponse}
    {a : SentRequest} (he : .event e ∈ acts) (ha : e.concluded? = some a)
    (hok : n'.client.err = .ok) : (∃ b, e = .answer a b) ∨ e = .drop a ∧ a.Unanswered := by
  cases h with
  | request env encoder htime =>
    cases request_outcome env encoder n.client with
    | refused hacts =>
      rw [hacts] at he
      cases he
    | made d _ _ _ hc' hacts =>
      rw [hacts, List.mem_cons] at he
      rcases he with he | he
      · cases he
        cases ha
      · exact (pollLowLevel_outcome env d).concluded he ha (hc' ▸ hok)
  | poll env htime => exact (pollLowLevel_outcome env n.client).concluded he ha hok
  | setOptions options defaultOptions => cases he

/-- **Requests are concluded in order.** Whatever the transport returns, the requests accepted so
far are those that were concluded, in the same order, and the one that is open. Each is concluded
only once. A request that was answered was so by the negative response to its service, unless that
asks for more time, or by the positive response to its service; and a call that concludes a request
without an error has found its answer, or drops a request to which no answer is awaited. -/
theorem requests_are_concluded_in_order (h : ClientRun tr n) :
    accepted (events tr) = concluded (events tr) ++ n.client.openRequest ∧
      (∀ a b, .answer a b ∈ events tr →
        (2 ≤ b.size ∧ b.buf 0 = 0x7F ∧ b.buf 1 = a.buf 0 ∧ b.buf 2 ≠ 0x78) ∨
          1 ≤ b.size ∧ (b.buf 0).toNat = (a.buf 0).toNat + 0x40) ∧
      ∀ acts n' e a, ClientStep n acts n' → .event e ∈ acts → e.concluded? = some a →
        n'.client.err = .ok → (∃ b, e = .answer a b) ∨ e = .drop a ∧ a.Unanswered := by
  obtain ⟨s, hrun, hstands⟩ := h.lives.requester
  refine ⟨hstands.held ▸ hrun.accepted_eq, fun a b hanswer => ?_,
    fun acts n' e a hstep he ha hok => hstep.concluded he ha hok⟩
  have hjudge : a.judge b = .final := hrun.judged _ hanswer
  unfold SentRequest.judge at hjudge
  split_ifs at hjudge with hnegates hpending herr haffirms
  · exact .inl ⟨hnegates.1, hnegates.2.1, hnegates.2.2.symm, hpending⟩
  · exact .inr ⟨haffirms.1, haffirms.2.2.1.symm⟩

/-- A transport that accepts what is sent, at a time, and that has received `data`. -/
def ClientEnv.fair (millis : ℕ) (sendRet : ℤ) (data : Bytes) : ClientEnv :=
  ⟨millis, some 65535, false, sendRet, fun i => data.getD i 0, data.length, .physical⟩

/-- A client. -/
def freshClient : TimedClient := ⟨.clientInit (fun _ => 0) fun _ => 0, 0⟩

/-- `TesterPresent` is answered, and the next poll concludes it. -/
theorem requests_are_concluded_in_order_tester_present : ∃ tr n acts n' e a, ClientRun tr n ∧
    ClientStep n acts n' ∧ .event e ∈ acts ∧ e.concluded? = some a ∧
      accepted (events tr) = concluded (events tr) ++ [a] ∧ ∃ b, e = .answer a b := by
  have hstart : ClientRun [] freshClient := .start ⟨_, _, rfl⟩
  have hrun := ((hstart.snoc (.request (.fair 0 2 []) udsSendTesterPresent (Nat.zero_le _))).snoc
    (.poll (.fair 1 0 []) (by decide))).snoc (.poll (.fair 2 0 [0x7E, 0]) (by decide))
  obtain ⟨horder, -, hconcluded⟩ := requests_are_concluded_in_order hrun
  refine ⟨_, _, _, _, _, _, hrun, .poll (.fair 3 0 []) (by decide), .tail _ (.head _), rfl, horder,
    ?_⟩
  exact (hconcluded _ _ _ _ (.poll (.fair 3 0 []) (by decide)) (.tail _ (.head _)) rfl
    rfl).resolve_right fun hdrop => nomatch hdrop.1

/-- **Requests do not expire early.** A request that expires was sent completely, or the server
asked for more time for it, so long ago that more time has passed than the last response to a
session control has fixed, or the defaults if there was none; and nothing was set in between. -/
theorem requests_expire_after_their_deadline (h : ClientRun tr n)
    {pre post : List (Event SentRequest ReceivedResponse)} {a : SentRequest} {now : ℕ}
    (hsplit : events tr = pre ++ .expire a now :: post) :
    ∃ pre' start post', ((∃ period, pre = pre' ++ .await a start period :: post' ∧
          period = (adopted pre').1.toNat ∧ start + period < now) ∨
        ∃ b period, pre = pre' ++ .extend a b start period :: post' ∧
          period = (adopted pre').2.toNat ∧ start + period < now) ∧
      ∀ e ∈ post', ¬∃ a' deadline, e.Sets a' deadline := by
  obtain ⟨s, hrun, -⟩ := h.lives.requester
  obtain ⟨deadline, ⟨pre', e, post', rfl, hsets, hpost⟩, hdeadline⟩ :=
    hrun.expires pre (.expire a now) post hsplit
  have hperiods := h.lives.timed.periods pre' e (post' ++ .expire a now :: post)
    (by rw [hsplit, List.append_assoc, List.cons_append])
  cases e with
  | await a' start period =>
    obtain ⟨rfl, rfl⟩ := hsets
    exact ⟨pre', start, post', .inl ⟨period, rfl, hperiods, hdeadline⟩, hpost⟩
  | extend a' b start period =>
    obtain ⟨rfl, rfl⟩ := hsets
    exact ⟨pre', start, post', .inr ⟨b, period, rfl, hperiods, hdeadline⟩, hpost⟩
  | _ => exact absurd hsets id

/-- `TesterPresent` expires after `151` milliseconds. -/
theorem requests_expire_after_their_deadline_tester_present : ∃ tr n pre a, ClientRun tr n ∧
    events tr = pre ++ [.expire a 151] ∧
    ∃ pre' start post', ((∃ period, pre = pre' ++ .await a start period :: post' ∧
          period = (adopted pre').1.toNat ∧ start + period < 151) ∨
        ∃ b period, pre = pre' ++ .extend a b start period :: post' ∧
          period = (adopted pre').2.toNat ∧ start + period < 151) ∧
      ∀ e ∈ post', ¬∃ a' deadline, e.Sets a' deadline := by
  have hstart : ClientRun [] freshClient := .start ⟨_, _, rfl⟩
  obtain ⟨tr, n, hrun, pre, a, hsplit⟩ : ∃ tr n, ClientRun tr n ∧
      ∃ pre a, events tr = pre ++ [.expire a 151] :=
    ⟨_, _, ((hstart.snoc (.request (.fair 0 2 []) udsSendTesterPresent (Nat.zero_le _))).snoc
      (.poll (.fair 0 0 []) le_rfl)).snoc (.poll (.fair 151 0 []) (by decide)),
      [_, _, _], _, rfl⟩
  exact ⟨tr, n, pre, a, hrun, hsplit, requests_expire_after_their_deadline hrun hsplit⟩

end EcuUpgrade
