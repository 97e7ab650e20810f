import EcuUpgrade.Transport.Poll
import EcuUpgrade.Server.Pending
import EcuUpgrade.Lib.Mailbox

/-!
# Requests between the receiver thread and the polling loop

`UDSServerPoll` sends the response before it acknowledges the request. The client may send its next
request as soon as it has the response; if this request arrives before the acknowledgement,
`DoipTpAckRecv` discards it. In all other runs the transport is a mailbox with one slot.

## Main definitions

* `Action.event`, `Represents`: the transport as a mailbox.
* `NothingLost`: the requests received so far have been evaluated, up to one that is held.
* `AcknowledgedStep`: a step that delivers nothing between a response and its acknowledgement.

## Main results

* `nothing_lost`: in runs of these steps, nothing is lost.
* `request_lost`: in other runs, a request can be lost.
-/

namespace EcuUpgrade

open ResponseCode Runs Mailbox

variable {B : Build} {env : Env} {n n' : Node} {a : Action} {tr : List Action}

/-- What a step is for the mailbox. -/
def Action.event : Action → Event Bytes
  | .receive data => .deliver data
  | .evaluate request => .take request
  | .send _ => .answer
  | .ackRecv => .release
  | .poll | .peek => .silent

/-- The requests delivered to the transport, in order. -/
def received (tr : List Action) : List Bytes := delivered (tr.map Action.event)

/-- The requests that were evaluated, in order. -/
def evaluated (tr : List Action) : List Bytes := taken (tr.map Action.event)

/-- The number of responses that were sent. -/
def responses (tr : List Action) : ℕ := answers (tr.map Action.event)

/-- A request lies in `recv_buf_`, its length in `recv_len_`. -/
def DoIPTp.Stores (tp : DoIPTp) (m : Bytes) : Prop :=
  tp.recvLen = m.length ∧ bytesAt tp.recvBuf 0 m.length = m

/-- **Nothing is lost**: the requests received so far are those that were evaluated, in order, up
to one that is still held; and each evaluated request was sent one response before the next was
evaluated. -/
structure NothingLost (tr : List Action) (n : Node) : Prop where
  held : ∃ held : Option Bytes, received tr = evaluated tr ++ held.toList ∧
    ∀ m ∈ held, n.tp.Stores m
  answered : Everywhere (fun pre a =>
    (∀ q, a = .evaluate q → (evaluated pre).length = responses pre) ∧
      ∀ r, a = .send r → (evaluated pre).length = responses pre + 1) tr

/-- A step that is not the delivery of a request between a response and its acknowledgement. -/
def AcknowledgedStep (B : Build) (n : Node) (a : Action) (n' : Node) : Prop :=
  NodeStep B n a n' ∧ ∀ data, a = .receive data → n.point ≠ .ackRecv

/-- The transport and the polling loop as a mailbox. -/
def Represents (n : Node) : State Bytes → Prop
  | .empty => n.waiting = false ∧ n.sys.srv.requestInProgress = false ∧
      n.tp.recvLen = 0 ∧ n.tp.ackedLen = 0 ∧ (n.point = .start ∨ n.point = .peek)
  | .holding m => n.waiting = true ∧ n.sys.srv.requestInProgress = false ∧ n.tp.Stores m ∧
      (n.tp.ackedLen = 0 ∧ (n.point = .start ∨ n.point = .peek) ∨
        ∃ recvLen : RecvLen, n.point = .evaluate recvLen ∧ recvLen.1 = m.length)
  | .working => n.waiting = true ∧ n.sys.srv.requestInProgress = true ∧
      (n.point = .start ∨ n.point = .send)
  | .answered => n.waiting = false ∧ n.sys.srv.requestInProgress = true ∧ n.point = .ackRecv

/-! ### Steps of the polling loop -/

/-- What a poll does before it uses the transport. -/
theorem poll_cases (hs : Settings n.sys) (h : n.poll B env = .ok n') :
    Settings n'.sys ∧ n'.tp = n.tp ∧ n'.waiting = n.waiting ∧
      n'.sys.srv.requestInProgress = n.sys.srv.requestInProgress ∧
      if n.sys.srv.requestInProgress then n'.point = .start ∨ n'.point = .send
      else n'.point = .start ∨ n'.point = .peek := by
  obtain rfl := Except.ok.inj ((Node.poll_of_settings hs).symm.trans h)
  refine ⟨hs.pollTimers, rfl, rfl, pollTimers_requestInProgress, ?_⟩
  dsimp only
  split_ifs <;> simp

/-- An evaluation makes a request one in progress. -/
theorem evaluate_cases (hs : Settings n.sys) {recvLen : RecvLen}
    (h : n.evaluate B env recvLen = .ok n') :
    Settings n'.sys ∧ n'.waiting = n.waiting ∧ n'.sys.srv.requestInProgress = true ∧
      n'.point = .start := by
  unfold Node.evaluate at h
  split at h
  · cases h
  · next response s hprocess =>
    obtain rfl := Except.ok.inj h
    have hstep : ServerStep B n.sys ⟨n.request recvLen, env, response, s.srv.r.sendBuf⟩ s :=
      ⟨hprocess, rfl⟩
    have hs' : Settings s := hs.step hstep
    have hfinal : response ≠ kRequestCorrectlyReceivedResponsePending :=
      processRequest_final hs.rcrrp hprocess
    refine ⟨⟨hs'.p2Ms, hs'.p2StarMs, hs'.s3Ms, ?_, hs'.taType⟩, rfl, rfl, rfl⟩
    exact (if_neg hfinal).trans hs'.rcrrp

theorem Settings.peek (hs : Settings n.sys) (B : Build) : Settings (n.peek B).sys :=
  ⟨hs.p2Ms, hs.p2StarMs, hs.s3Ms, hs.rcrrp, hs.taType⟩

theorem Settings.send (hs : Settings n.sys) (env : Env) : Settings (n.send env).sys :=
  ⟨hs.p2Ms, hs.p2StarMs, hs.s3Ms, hs.rcrrp, hs.taType⟩

theorem Settings.ackRecv (hs : Settings n.sys) : Settings n.ackRecv.sys :=
  ⟨hs.p2Ms, hs.p2StarMs, hs.s3Ms, hs.rcrrp, hs.taType⟩

/-- A response that is sent is to be acknowledged next. -/
theorem send_point (hs : Settings n.sys) (env : Env) : (n.send env).point = .ackRecv := by
  unfold Node.send
  dsimp only
  rw [hs.rcrrp]
  rfl

theorem stores_receiveFromLibrary (tp : DoIPTp) {data : Bytes} (h : data.length ≤ 65535) :
    (tp.receiveFromLibrary data h).Stores data :=
  ⟨rfl, bytesAt_getD data tp.recvBuf⟩

/-- A delivery fills the empty mailbox. -/
theorem Represents.receive {st : State Bytes} {data : Bytes} (hn : Represents n st)
    (hpoint : n.point ≠ .ackRecv) (h : n.receive data = some n') :
    Mailbox.Step st (.deliver data) (.holding data) ∧ n'.sys = n.sys ∧
      Represents n' (.holding data) := by
  unfold Node.receive at h
  split_ifs at h with hcan
  obtain rfl := Option.some.inj h
  cases st with
  | empty =>
    obtain ⟨-, hprogress, -, hacked, hpoint'⟩ := hn
    exact ⟨.deliver data, rfl, rfl, hprogress, stores_receiveFromLibrary _ _,
      .inl ⟨hacked, hpoint'⟩⟩
  | holding m => simp [hn.1] at hcan
  | working => simp [hn.1] at hcan
  | answered => exact absurd hn.2.2 hpoint

/-- A poll is silent. -/
theorem Represents.poll {st : State Bytes} (hs : Settings n.sys) (hn : Represents n st)
    (hpoint : n.point = .start) (h : n.poll B env = .ok n') : Represents n' st := by
  obtain ⟨-, htp, hwaiting, hprogress, hpoint'⟩ := poll_cases hs h
  cases st with
  | empty =>
    obtain ⟨hw, hp, hlen, hacked, -⟩ := hn
    rw [hp, if_neg (by simp)] at hpoint'
    exact ⟨hwaiting.trans hw, hprogress.trans hp, htp ▸ hlen, htp ▸ hacked, hpoint'⟩
  | holding m =>
    obtain ⟨hw, hp, hstores, hacked⟩ := hn
    rw [hp, if_neg (by simp)] at hpoint'
    refine ⟨hwaiting.trans hw, hprogress.trans hp, htp ▸ hstores, ?_⟩
    rcases hacked with ⟨hacked, -⟩ | ⟨recvLen, heval, -⟩
    · exact .inl ⟨htp ▸ hacked, hpoint'⟩
    · cases hpoint.symm.trans heval
  | working =>
    obtain ⟨hw, hp, -⟩ := hn
    rw [hp, if_pos rfl] at hpoint'
    exact ⟨hwaiting.trans hw, hprogress.trans hp, hpoint'⟩
  | answered => cases hpoint.symm.trans hn.2.2

/-- Peeking is silent: an empty transport has nothing to evaluate, and a held request is evaluated
with its whole length. -/
theorem Represents.peek {st : State Bytes} (hn : Represents n st) (hpoint : n.point = .peek) :
    Represents (n.peek B) st := by
  cases st with
  | empty =>
    obtain ⟨hw, hp, hlen, hacked, -⟩ := hn
    have hpeek : n.tp.doipTpPeek = (⟨n.tp.recvLen, n.tp.recvLen_le⟩, n.tp) :=
      if_pos (hlen.trans hacked.symm)
    unfold Node.peek
    rw [hpeek]
    refine ⟨hw, hp, hlen, hacked, .inl ?_⟩
    exact if_neg (by simp [hlen])
  | holding m =>
    obtain ⟨hw, hp, hstores, hacked⟩ := hn
    obtain ⟨hacked, -⟩ : n.tp.ackedLen = 0 ∧ _ := by
      refine hacked.resolve_right ?_
      rintro ⟨recvLen, heval, -⟩
      cases hpoint.symm.trans heval
    unfold Node.peek DoIPTp.doipTpPeek
    rcases Nat.eq_zero_or_pos n.tp.recvLen with hzero | hpos
    · rw [if_pos (hzero.trans hacked.symm)]
      exact ⟨hw, hp, hstores, .inl ⟨hacked, .inl (if_neg (by simp [hzero]))⟩⟩
    · rw [if_neg (by omega), if_pos (by omega)]
      exact ⟨hw, hp, hstores, .inr ⟨_, if_pos hpos, hstores.1⟩⟩
  | working => simp [Represents, hpoint] at hn
  | answered => cases hpoint.symm.trans hn.2.2

/-- What is evaluated is the request that is held. -/
theorem Represents.evaluate {st : State Bytes} {recvLen : RecvLen} (hs : Settings n.sys)
    (hn : Represents n st) (hpoint : n.point = .evaluate recvLen)
    (h : n.evaluate B env recvLen = .ok n') :
    Mailbox.Step st (.take (bytesAt n.tp.recvBuf 0 recvLen.1)) .working ∧
      Represents n' .working := by
  obtain ⟨-, hwaiting, hprogress, hpoint'⟩ := evaluate_cases hs h
  cases st with
  | empty => simp [Represents, hpoint] at hn
  | holding m =>
    obtain ⟨hw, -, ⟨-, hbytes⟩, ⟨-, hnot | hnot⟩ | ⟨recvLen', heval, hlen⟩⟩ := hn
    · cases hpoint.symm.trans hnot
    · cases hpoint.symm.trans hnot
    · obtain rfl : recvLen = recvLen' := PollPoint.evaluate.inj (hpoint.symm.trans heval)
      rw [hlen, hbytes]
      exact ⟨.take m, hwaiting.trans hw, hprogress, .inl hpoint'⟩
  | working => simp [Represents, hpoint] at hn
  | answered => cases hpoint.symm.trans hn.2.2

/-- **The transport is a mailbox**, as long as nothing is delivered between a response and its
acknowledgement. -/
theorem AcknowledgedStep.represents {st : State Bytes} (hs : Settings n.sys) (hn : Represents n st)
    (h : AcknowledgedStep B n a n') :
    ∃ st', Mailbox.Step st a.event st' ∧ Settings n'.sys ∧ Represents n' st' := by
  obtain ⟨⟨data, rfl, hreceive⟩ | ⟨env, hpoll⟩, hack⟩ := h
  · obtain ⟨hstep, hsys, hn'⟩ := hn.receive (hack data rfl) hreceive
    exact ⟨_, hstep, hsys ▸ hs, hn'⟩
  rcases pollStep_cases hpoll with ⟨hpoint, rfl, h⟩ | ⟨hpoint, rfl, rfl⟩ |
    ⟨recvLen, hpoint, rfl, h⟩ | ⟨hpoint, rfl, rfl⟩ | ⟨hpoint, rfl, rfl⟩
  · exact ⟨st, .silent st, (poll_cases hs h).1, hn.poll hs hpoint h⟩
  · exact ⟨st, .silent st, hs.peek B, hn.peek hpoint⟩
  · obtain ⟨hstep, hn'⟩ := hn.evaluate hs hpoint h
    exact ⟨_, hstep, (evaluate_cases hs h).1, hn'⟩
  · cases st with
    | working => exact ⟨.answered, .answer, hs.send env, rfl, hn.2.1, send_point hs env⟩
    | _ => simp [Represents, hpoint] at hn
  · cases st with
    | answered =>
      exact ⟨.empty, .release, hs.ackRecv, hn.1, rfl, rfl, rfl, .inl rfl⟩
    | _ => simp [Represents, hpoint] at hn

/-! ### Runs -/

/-- A run of both threads in which every response is acknowledged before the next request
arrives. -/
abbrev AcknowledgedRun (B : Build) : List Action → Node → Prop := Run NodeStart (AcknowledgedStep B)

theorem AcknowledgedRun.mailboxRun (h : AcknowledgedRun B tr n) :
    ∃ st, MailboxRun (tr.map Action.event) st ∧ Represents n st := by
  have hsim : ∃ st, MailboxRun (tr.map Action.event) st ∧ Settings n.sys ∧ Represents n st := by
    refine Run.simulates (R := fun n st => Settings n.sys ∧ Represents n st) ?_ ?_ h
    · rintro n ⟨htp, ⟨env, fs, hsys⟩, hpoint, hwaiting⟩
      refine ⟨.empty, rfl, hsys ▸ settings_udsServerInit env fs, hwaiting, ?_, ?_, ?_, .inl hpoint⟩
      · rw [hsys]
        rfl
      · rw [htp]
        rfl
      · rw [htp]
        rfl
    · rintro n st a n' ⟨hs, hn⟩ hstep
      exact hstep.represents hs hn
  obtain ⟨st, hrun, -, hn⟩ := hsim
  exact ⟨st, hrun, hn⟩

/-- **No request is lost** in runs in which every response is acknowledged before the next request
arrives. -/
theorem nothing_lost (h : AcknowledgedRun B tr n) : NothingLost tr n := by
  obtain ⟨st, hrun, hn⟩ := AcknowledgedRun.mailboxRun h
  obtain ⟨hdelivered, -⟩ := hrun.delivered_eq
  constructor
  · cases st with
    | holding m =>
      refine ⟨some m, hdelivered, fun m' hm' => ?_⟩
      obtain rfl : m = m' := by simpa using hm'
      exact hn.2.2.1
    | _ => exact ⟨none, hdelivered, by simp⟩
  · intro pre a post heq
    have hmap : tr.map Action.event = pre.map Action.event ++ a.event :: post.map Action.event := by
      rw [heq, List.map_append, List.map_cons]
    have halternates := hrun.alternates _ _ _ hmap
    constructor
    · rintro q rfl
      exact halternates
    · rintro r rfl
      exact halternates

/-- **The other runs lose requests**: what is delivered between a response and its acknowledgement
is discarded by the acknowledgement. -/
theorem AcknowledgedRun.lost_of_receive {data : Bytes} (h : AcknowledgedRun B tr n)
    (hpoint : n.point = .ackRecv) (hdata : data ≠ []) :
    ¬NothingLost (tr ++ [.receive data, .ackRecv]) n'.ackRecv := by
  rintro ⟨⟨held, hreceived, hheld⟩, -⟩
  obtain ⟨st, hrun, hn⟩ := AcknowledgedRun.mailboxRun h
  have hall : received tr = evaluated tr := by
    obtain ⟨hdelivered, -⟩ := hrun.delivered_eq
    cases st with
    | answered => exact hdelivered.trans (List.append_nil _)
    | _ => simp [Represents, hpoint] at hn
  have hlast : received (tr ++ [.receive data, .ackRecv]) = evaluated tr ++ [data] := by
    rw [← hall]
    simp [received, delivered, Action.event]
  have hsame : evaluated (tr ++ [.receive data, .ackRecv]) = evaluated tr := by
    simp [evaluated, taken, Action.event]
  rw [hlast, hsame] at hreceived
  cases held with
  | none => simp at hreceived
  | some m =>
    obtain rfl : data = m := by simpa using hreceived
    have hlen : 0 = data.length := (hheld data rfl).1
    exact hdata (List.eq_nil_of_length_eq_zero hlen.symm)

/-- The next step of a schedule, which gives either the outcomes of the system calls of the main
thread or the next request. -/
def Node.followStep (B : Build) (n : Node) : Env ⊕ Bytes → Option (Action × Node)
  | .inl env => (n.pollStep B env).toOption
  | .inr data =>
    if n.point = .ackRecv then none else (n.receive data).map fun n' => (.receive data, n')

/-- The actions of a schedule, and the node after it. -/
def Node.follow (B : Build) (n : Node) : List (Env ⊕ Bytes) → Option (List Action × Node)
  | [] => some ([], n)
  | step :: rest => do
    let (a, n') ← n.followStep B step
    let (tr, n'') ← n'.follow B rest
    some (a :: tr, n'')

theorem Node.followStep_step {step : Env ⊕ Bytes} (h : n.followStep B step = some (a, n')) :
    AcknowledgedStep B n a n' := by
  cases step with
  | inl env =>
    have hpoll : n.pollStep B env = .ok (a, n') := by
      unfold Node.followStep at h
      dsimp only at h
      cases hstep : n.pollStep B env with
      | error e =>
        rw [hstep] at h
        cases h
      | ok p =>
        rw [hstep] at h
        cases h
        rfl
    refine ⟨.inr ⟨env, hpoll⟩, ?_⟩
    rintro data rfl
    rcases pollStep_cases hpoll with ⟨-, ha, -⟩ | ⟨-, ha, -⟩ | ⟨_, -, ha, -⟩ | ⟨-, ha, -⟩ |
      ⟨-, ha, -⟩ <;> cases ha
  | inr data =>
    unfold Node.followStep at h
    dsimp only at h
    split_ifs at h with hpoint
    obtain ⟨m, hm, heq⟩ := Option.map_eq_some_iff.1 h
    cases heq
    exact ⟨.inl ⟨data, rfl, hm⟩, fun _ _ => hpoint⟩

theorem Node.follow_path {schedule : List (Env ⊕ Bytes)}
    (h : n.follow B schedule = some (tr, n')) : Runs.Path (AcknowledgedStep B) n tr n' := by
  induction schedule generalizing n tr with
  | nil =>
    cases h
    exact .nil _
  | cons step rest ih =>
    simp only [Node.follow, Option.bind_eq_bind, Option.bind_eq_some_iff] at h
    obtain ⟨⟨a, m⟩, hstep, ⟨tr', m'⟩, hrest, heq⟩ := h
    cases heq
    exact .cons (Node.followStep_step hstep) (ih hrest)

/-- The node after start-up, at the time zero. -/
def freshNode : Node :=
  ⟨.initial, udsServerInit (.fair 0) fun _ => none, .start, false⟩

theorem exists_run_of_follow (B : Build) (schedule : List (Env ⊕ Bytes))
    (P : List Action → Node → Prop) [∀ tr n, Decidable (P tr n)]
    (h : (freshNode.follow B schedule).any (fun p => decide (P p.1 p.2)) = true) :
    ∃ tr n, AcknowledgedRun B tr n ∧ P tr n := by
  cases hfollow : freshNode.follow B schedule with
  | none => simp [hfollow] at h
  | some p =>
    rw [hfollow] at h
    exact ⟨p.1, p.2, (Run.start ⟨rfl, ⟨_, _, rfl⟩, rfl, rfl⟩).append (Node.follow_path hfollow),
      of_decide_eq_true h⟩

/-- A `TesterPresent` request. -/
def testerPresentRequest : Bytes := [0x3E, 0x00]

/-- The main thread polls until it has sent the response to a request, a second after start-up. -/
def scheduleToResponse : List (Env ⊕ Bytes) :=
  .inr testerPresentRequest :: List.replicate 5 (.inl (.fair 1000))

/-- A request that arrives after the acknowledgement is held. -/
theorem nothing_lost_two_requests : ∃ tr n, NothingLost tr n ∧
    received tr = [testerPresentRequest, testerPresentRequest] ∧
      evaluated tr = [testerPresentRequest] := by
  obtain ⟨tr, n, hrun, hreceived, hevaluated⟩ := exists_run_of_follow ⟨65535, .test⟩
    (scheduleToResponse ++ [.inl (.fair 1000), .inr testerPresentRequest])
    (fun tr _ => received tr = [testerPresentRequest, testerPresentRequest] ∧
      evaluated tr = [testerPresentRequest]) (by decide +kernel)
  exact ⟨tr, n, nothing_lost hrun, hreceived, hevaluated⟩

/-- A request that arrives before the acknowledgement is lost. -/
theorem request_lost : ¬∀ (B : Build) (tr : List Action) (n : Node), NodeRun B tr n →
    NothingLost tr n := by
  intro hclaim
  obtain ⟨tr, n, hrun, hpoint, hwaiting⟩ := exists_run_of_follow ⟨65535, .test⟩ scheduleToResponse
    (fun _ n => n.point = .ackRecv ∧ n.waiting = false) (by decide +kernel)
  have hlen : testerPresentRequest.length ≤ 65535 := by decide
  have hreceive : n.receive testerPresentRequest = some { n with
      tp := n.tp.receiveFromLibrary testerPresentRequest hlen, waiting := true } :=
    dif_pos ⟨hwaiting, hlen⟩
  obtain ⟨n₀, hstart, hpath⟩ := Run.exists_path hrun
  have hnode : NodeRun ⟨65535, .test⟩ tr n :=
    (Run.start hstart).append (hpath.mono fun _ _ _ hstep => hstep.1)
  have hdelivered := hnode.snoc (.inl ⟨_, rfl, hreceive⟩)
  have hacked := hdelivered.snoc (l := .ackRecv) (.inr ⟨.fair 0, by
    unfold Node.pollStep
    dsimp only
    rw [hpoint]⟩)
  rw [List.append_assoc] at hacked
  exact AcknowledgedRun.lost_of_receive hrun hpoint (by decide) (hclaim _ _ _ hacked)

end EcuUpgrade
