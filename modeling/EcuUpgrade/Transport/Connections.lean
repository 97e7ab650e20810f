import EcuUpgrade.Transport.NoLoss

/-!
# Connections of testers

`ListenTcp` accepts one connection after the other and keeps the present one in `connection_`; it
delivers the messages that arrive on it. `DoipTpSend` hands a response to the connection that
`connection_` is then. Nothing remembers the connection on which the request was received, so that
a response goes to the wrong tester if the connection is replaced before it is sent.

## Main definitions

* `Gateway`, `GatewayStep`, `GatewayRun`: the node with the connections.
* `Answering`: the request which the next response answers.
* `GatewayInv`: the invariant of the runs.
* `AnswersAsker`: every response is sent on the connection of its request.
* `KeepsConnection`: no connection is accepted between a request and its response.

## Main results

* `answersAsker_iff`: the runs in which answers go to the tester that asked.
* `answered_on_later_connection`: a run in which one does not.
-/

namespace EcuUpgrade

open ResponseCode Runs

/-- The transport and the polling loop, the number of connections that were accepted, and whether
the socket of the last one is active. `connection_` is the last one. -/
structure Gateway where
  node : Node
  accepted : ℕ
  active : Bool

/-- What happens to the gateway: a connection is accepted or ends, a message is delivered on a
connection, a response is sent on one, or the main thread does something else. -/
inductive GatewayEvent
  | accept
  | close
  | deliver (connection : ℕ) (data : Bytes)
  | send (connection : ℕ) (response : Bytes)
  | main (a : Action)

/-- The event of an action of the main thread. -/
def Gateway.event (g : Gateway) : Action → GatewayEvent
  | .send response => .send g.accepted response
  | a => .main a

/-- `ListenTcp` waits for the next connection when the socket of the last one is not active any
more; until then it delivers what arrives on it. -/
inductive GatewayStep (B : Build) (g : Gateway) : GatewayEvent → Gateway → Prop
  | accept (h : g.active = false) :
      GatewayStep B g .accept { g with accepted := g.accepted + 1, active := true }
  | close (h : g.active = true) : GatewayStep B g .close { g with active := false }
  | deliver (h : g.active = true) (data : Bytes) (hdata : data.length ≤ 65535) :
      GatewayStep B g (.deliver g.accepted data)
        { g with node.tp := g.node.tp.receiveFromLibrary data hdata }
  | main (env : Env) {a : Action} {n : Node} (h : g.node.pollStep B env = .ok (a, n)) :
      GatewayStep B g (g.event a) { g with node := n }

/-- The gateway after start-up, without a connection. -/
def GatewayStart (g : Gateway) : Prop := NodeStart g.node ∧ g.accepted = 0 ∧ g.active = false

/-- A run of the gateway. -/
abbrev GatewayRun (B : Build) : List GatewayEvent → Gateway → Prop :=
  Run GatewayStart (GatewayStep B)

/-! ### Whom a response answers -/

/-- The response that is sent next answers a request delivered on the connection `c`: the last one
delivered before the last evaluation, to which no response was sent. `since` is what has happened
since the delivery. -/
inductive Answering : List GatewayEvent → ℕ → List GatewayEvent → Prop
  | intro (pre : List GatewayEvent) (c : ℕ) (data : Bytes) {held : List GatewayEvent}
      (hheld : ∀ c' data', .deliver c' data' ∉ held) (request : Bytes) {due : List GatewayEvent}
      (hdue : ∀ request', .main (.evaluate request') ∉ due)
      (hsend : ∀ c' response, .send c' response ∉ due) :
      Answering (pre ++ .deliver c data :: (held ++ .main (.evaluate request) :: due)) c
        (held ++ .main (.evaluate request) :: due)

/-- **Answers go to the tester that asked**: every response answers a request that was delivered on
the connection on which the response is sent. -/
def AnswersAsker (tr : List GatewayEvent) : Prop :=
  Everywhere (fun pre e => ∀ c' response, e = .send c' response →
    (∃ c since, Answering pre c since) ∧ ∀ c since, Answering pre c since → c' = c) tr

/-- No connection is accepted between the delivery of a request and the response to it. -/
def KeepsConnection (tr : List GatewayEvent) : Prop :=
  Everywhere (fun pre e => ∀ c' response, e = .send c' response →
    ∀ c since, Answering pre c since → .accept ∉ since) tr

deriving instance DecidableEq for Action

deriving instance DecidableEq for GatewayEvent

variable {B : Build} {env : Env} {g g' : Gateway} {tr since : List GatewayEvent} {e : GatewayEvent}
  {a : Action} {c : ℕ} {n n' : Node}

/-- An event that evaluates and sends nothing changes nothing about whom the next response
answers. -/
theorem Answering.snoc (h : Answering tr c since) (heval : ∀ q, e ≠ .main (.evaluate q))
    (hsend : ∀ c' response, e ≠ .send c' response) :
    Answering (tr ++ [e]) c (since ++ [e]) := by
  cases h with
  | @intro pre c data held hheld q due hdue hnone =>
    have hdue' (q' : Bytes) : .main (.evaluate q') ∉ due ++ [e] := by
      intro hmem
      rcases List.mem_append.1 hmem with hmem | hmem
      · exact hdue q' hmem
      · exact heval q' (List.mem_singleton.1 hmem).symm
    have hnone' (c' : ℕ) (response : Bytes) : .send c' response ∉ due ++ [e] := by
      intro hmem
      rcases List.mem_append.1 hmem with hmem | hmem
      · exact hnone c' response hmem
      · exact hsend c' response (List.mem_singleton.1 hmem).symm
    simpa using Answering.intro pre c data hheld q hdue' hnone'

/-- An evaluation after a delivery makes a response due. -/
theorem exists_answering (h : ∃ c data, .deliver c data ∈ tr) (q : Bytes) :
    ∃ c since, Answering (tr ++ [.main (.evaluate q)]) c since := by
  obtain ⟨c, data, hmem⟩ := h
  obtain ⟨pre, e, held, rfl, ⟨c, data, rfl⟩, hheld⟩ :=
    exists_last (p := fun e => ∃ c data, e = .deliver c data) ⟨_, hmem, c, data, rfl⟩
  refine ⟨c, held ++ [.main (.evaluate q)], ?_⟩
  have hnone (c' : ℕ) (data' : Bytes) : .deliver c' data' ∉ held :=
    fun hmem => hheld _ hmem ⟨c', data', rfl⟩
  simpa using @Answering.intro pre c data held hnone q [] (by simp) (by simp)

/-! ### The invariant -/

/-- **The gateway counts the connections, and a response is only due to a delivered request.** -/
structure GatewayInv (tr : List GatewayEvent) (g : Gateway) : Prop where
  settings : Settings g.node.sys
  accepted : g.accepted = tr.count .accept
  delivered : (g.node.tp.recvLen ≠ 0 ∨ ∃ recvLen, g.node.point = .evaluate recvLen) →
    ∃ c data, .deliver c data ∈ tr
  due : g.node.sys.srv.requestInProgress = true → g.node.point ≠ .ackRecv →
    ∃ c since, Answering tr c since
  sending : g.node.point = .send → g.node.sys.srv.requestInProgress = true

theorem GatewayStart.inv (h : GatewayStart g) : GatewayInv [] g := by
  obtain ⟨⟨htp, ⟨env, fs, hsys⟩, hpoint, -⟩, haccepted, -⟩ := h
  have hprogress : g.node.sys.srv.requestInProgress = false := by
    rw [hsys]
    rfl
  refine ⟨hsys ▸ settings_udsServerInit env fs, haccepted, ?_, ?_, ?_⟩
  · rintro (hlen | ⟨recvLen, heval⟩)
    · rw [htp] at hlen
      exact absurd rfl hlen
    · cases hpoint.symm.trans heval
  · intro h
    cases hprogress.symm.trans h
  · intro h
    cases hpoint.symm.trans h

theorem GatewayInv.delivered_snoc (hi : GatewayInv tr g)
    (h : g.node.tp.recvLen ≠ 0 ∨ ∃ recvLen, g.node.point = .evaluate recvLen) (e : GatewayEvent) :
    ∃ c data, .deliver c data ∈ tr ++ [e] := by
  obtain ⟨c, data, hmem⟩ := hi.delivered h
  exact ⟨c, data, List.mem_append_left _ hmem⟩

/-- An event that evaluates and sends nothing keeps the invariant, if no request is made one in
progress, acknowledged or received but by a delivery. -/
theorem GatewayInv.snoc (hi : GatewayInv tr g) (hsettings : Settings g'.node.sys)
    (haccepted : g'.accepted = (tr ++ [e]).count .accept)
    (hdelivered : (g'.node.tp.recvLen ≠ 0 ∨ ∃ recvLen, g'.node.point = .evaluate recvLen) →
      (g.node.tp.recvLen ≠ 0 ∨ ∃ recvLen, g.node.point = .evaluate recvLen) ∨
        ∃ c data, e = .deliver c data)
    (heval : ∀ q, e ≠ .main (.evaluate q)) (hsend : ∀ c' response, e ≠ .send c' response)
    (hprogress : g'.node.sys.srv.requestInProgress = g.node.sys.srv.requestInProgress)
    (hack : g.node.point = .ackRecv → g'.node.point = .ackRecv)
    (hsending : g'.node.point = .send → g.node.sys.srv.requestInProgress = true) :
    GatewayInv (tr ++ [e]) g' := by
  refine ⟨hsettings, haccepted, ?_, ?_, ?_⟩
  · intro h
    rcases hdelivered h with h | ⟨c, data, rfl⟩
    · exact hi.delivered_snoc h e
    · exact ⟨c, data, by simp⟩
  · intro h hpoint
    obtain ⟨c, since, hanswering⟩ := hi.due (hprogress ▸ h) fun h => hpoint (hack h)
    exact ⟨c, since ++ [e], hanswering.snoc heval hsend⟩
  · intro h
    rw [hprogress]
    exact hsending h

/-- Peeking changes nothing that was received, and evaluates nothing unless something was. -/
theorem peek_cases (B : Build) (n : Node) :
    (n.peek B).tp.recvLen = n.tp.recvLen ∧ ((n.peek B).point = .start ∨
      n.tp.recvLen ≠ 0 ∧ ∃ recvLen, (n.peek B).point = .evaluate recvLen) := by
  unfold Node.peek DoIPTp.doipTpPeek
  split_ifs with hacked hless
  · refine ⟨rfl, ?_⟩
    dsimp only
    split_ifs with hpos
    · exact .inr ⟨Nat.ne_of_gt hpos, _, rfl⟩
    · exact .inl rfl
  · refine ⟨rfl, ?_⟩
    dsimp only
    split_ifs with hpos
    · exact .inr ⟨Nat.ne_of_gt hpos, _, rfl⟩
    · exact .inl rfl
  · exact ⟨rfl, .inl rfl⟩

theorem GatewayInv.poll (hi : GatewayInv tr g) (hpoint : g.node.point = .start)
    (h : g.node.poll B env = .ok n) :
    GatewayInv (tr ++ [.main .poll]) { g with node := n } := by
  obtain ⟨hs, htp, -, hprogress, hpoint'⟩ := poll_cases hi.settings h
  refine hi.snoc hs (by simp [hi.accepted]) ?_ (by simp) (by simp) hprogress ?_ ?_
  · rintro (hlen | ⟨recvLen, heval⟩)
    · exact .inl (.inl (htp ▸ hlen))
    · rw [heval] at hpoint'
      split_ifs at hpoint' <;> simp at hpoint'
  · intro hack
    cases hpoint.symm.trans hack
  · intro hsend
    by_contra hnot
    rw [if_neg hnot, show n.point = .send from hsend] at hpoint'
    simp at hpoint'

theorem GatewayInv.peek (hi : GatewayInv tr g) (hpoint : g.node.point = .peek) :
    GatewayInv (tr ++ [.main .peek]) { g with node := g.node.peek B } := by
  obtain ⟨htp, hpoint'⟩ := peek_cases B g.node
  refine hi.snoc (hi.settings.peek B) (by simp [hi.accepted]) ?_ (by simp) (by simp) rfl ?_ ?_
  · rintro (hlen | ⟨recvLen, heval⟩)
    · exact .inl (.inl (htp ▸ hlen))
    · rcases hpoint' with hstart | ⟨hlen, -⟩
      · cases hstart.symm.trans heval
      · exact .inl (.inl hlen)
  · intro hack
    cases hpoint.symm.trans hack
  · intro hsend
    rcases hpoint' with hstart | ⟨-, recvLen, heval⟩
    · cases hstart.symm.trans hsend
    · cases heval.symm.trans hsend

/-- An evaluation makes a response due. -/
theorem GatewayInv.evaluate (hi : GatewayInv tr g) {recvLen : RecvLen}
    (hpoint : g.node.point = .evaluate recvLen) (h : g.node.evaluate B env recvLen = .ok n)
    (q : Bytes) : GatewayInv (tr ++ [.main (.evaluate q)]) { g with node := n } := by
  obtain ⟨hs, -, hprogress, hpoint'⟩ := evaluate_cases hi.settings h
  refine ⟨hs, by simp [hi.accepted], ?_, ?_, ?_⟩
  · intro
    exact hi.delivered_snoc (.inr ⟨recvLen, hpoint⟩) _
  · intro _ _
    exact exists_answering (hi.delivered (.inr ⟨recvLen, hpoint⟩)) q
  · intro hsend
    cases hpoint'.symm.trans hsend

/-- After a response, none is due. -/
theorem GatewayInv.send (hi : GatewayInv tr g) (env : Env) (c : ℕ) (response : Bytes) :
    GatewayInv (tr ++ [.send c response]) { g with node := g.node.send env } := by
  have hpoint := send_point hi.settings env
  refine ⟨hi.settings.send env, by simp [hi.accepted], ?_, ?_, ?_⟩
  · rintro (hlen | ⟨recvLen, heval⟩)
    · exact hi.delivered_snoc (.inl hlen) _
    · cases hpoint.symm.trans heval
  · intro _ hack
    exact absurd hpoint hack
  · intro hsend
    cases hpoint.symm.trans hsend

theorem GatewayInv.ackRecv (hi : GatewayInv tr g) :
    GatewayInv (tr ++ [.main .ackRecv]) { g with node := g.node.ackRecv } := by
  refine ⟨hi.settings.ackRecv, by simp [hi.accepted], ?_, ?_, ?_⟩
  · rintro (hlen | ⟨recvLen, heval⟩)
    · exact absurd rfl hlen
    · cases heval
  · intro hprogress
    cases hprogress
  · intro hsend
    cases hsend

/-- **The step lemma of the invariant.** -/
theorem GatewayStep.inv (h : GatewayStep B g e g') (hi : GatewayInv tr g) :
    GatewayInv (tr ++ [e]) g' := by
  cases h with
  | accept _ =>
    exact hi.snoc hi.settings (by simp [hi.accepted]) .inl (by simp) (by simp) rfl id hi.sending
  | close _ =>
    exact hi.snoc hi.settings (by simp [hi.accepted]) .inl (by simp) (by simp) rfl id hi.sending
  | deliver _ data _ =>
    refine hi.snoc hi.settings (by simp [hi.accepted]) ?_ (by simp) (by simp) rfl id hi.sending
    intro
    exact .inr ⟨_, data, rfl⟩
  | main env h =>
    rcases pollStep_cases h with ⟨hpoint, rfl, hpoll⟩ | ⟨hpoint, rfl, rfl⟩ |
      ⟨recvLen, hpoint, rfl, hevaluate⟩ | ⟨-, rfl, rfl⟩ | ⟨-, rfl, rfl⟩
    · exact hi.poll hpoint hpoll
    · exact hi.peek hpoint
    · exact hi.evaluate hpoint hevaluate _
    · exact hi.send env _ _
    · exact hi.ackRecv

theorem GatewayRun.inv (h : GatewayRun B tr g) : GatewayInv tr g :=
  Run.invariant (fun _ hstart => hstart.inv) (fun _ _ _ _ _ hi hstep => hstep.inv hi) h

/-! ### Runs -/

/-- Deliveries and responses belong to the last connection that was accepted. -/
theorem GatewayRun.everywhere_last (h : GatewayRun B tr g) :
    Everywhere (fun pre e =>
      (∀ c data, e = .deliver c data → c = pre.count .accept) ∧
      ∀ c response, e = .send c response →
        c = pre.count .accept ∧ ∃ c' since, Answering pre c' since) tr := by
  refine Run.everywhere (fun pre g e g' hrun hstep => ?_) h
  have hi := GatewayRun.inv hrun
  cases hstep with
  | accept _ => simp
  | close _ => simp
  | deliver _ data _ => simp [hi.accepted]
  | @main env a n hmain =>
    rcases pollStep_cases hmain with ⟨-, rfl, -⟩ | ⟨-, rfl, -⟩ | ⟨_, -, rfl, -⟩ | ⟨hpoint, rfl, -⟩ |
      ⟨-, rfl, -⟩
    · simp [Gateway.event]
    · simp [Gateway.event]
    · simp [Gateway.event]
    · have hdue := hi.due (hi.sending hpoint) (by simp [hpoint])
      simpa [Gateway.event, hi.accepted] using hdue
    · simp [Gateway.event]

/-- The connection that a response is sent on is as many connections after that of its request as
were accepted in between. -/
theorem Answering.connection_eq (h : Answering tr c since) {post : List GatewayEvent} {c' : ℕ}
    {response : Bytes} {B : Build} {g : Gateway}
    (hrun : GatewayRun B (tr ++ .send c' response :: post) g) :
    c' = c + since.count .accept := by
  have hall := GatewayRun.everywhere_last hrun
  obtain ⟨hsend, -⟩ := (hall tr _ post rfl).2 c' response rfl
  cases h with
  | @intro pre c data held hheld q due hdue hnone =>
    have hdeliver := (hall pre (.deliver c data)
      ((held ++ .main (.evaluate q) :: due) ++ .send c' response :: post) (by simp)).1 c data rfl
    rw [hsend, hdeliver, List.count_append, List.count_cons_of_ne (by simp)]

/-- **Exactly in the runs that accept no connection between a request and its response, every
answer goes to the tester that asked.** -/
theorem answersAsker_iff (h : GatewayRun B tr g) : AnswersAsker tr ↔ KeepsConnection tr := by
  constructor
  · intro hanswers pre e post heq c' response he c since hanswering
    obtain rfl : c' = c := (hanswers pre e post heq c' response he).2 c since hanswering
    subst he heq
    have hcount := hanswering.connection_eq h
    exact List.count_eq_zero.1 (by omega)
  · intro hkeeps pre e post heq c' response he
    subst he heq
    refine ⟨((GatewayRun.everywhere_last h pre _ post rfl).2 c' response rfl).2, ?_⟩
    intro c since hanswering
    have hnone := hkeeps pre _ post rfl c' response rfl c since hanswering
    have hcount := hanswering.connection_eq h
    rw [hcount, List.count_eq_zero.2 hnone, Nat.add_zero]

/-- The only connection is kept. -/
theorem keepsConnection_of_single (h : .accept ∉ tr) : KeepsConnection (.accept :: tr) := by
  intro pre e post heq c' response _ c since hanswering haccept
  cases hanswering with
  | @intro pre c data held _ q due _ _ =>
    cases pre with
    | nil => cases heq
    | cons e' pre =>
      obtain ⟨-, rfl⟩ := List.cons.inj heq
      exact h (List.mem_append_left _ (List.mem_append_right _ (List.mem_cons_of_mem _ haccept)))

/-! ### Schedules -/

/-- What happens next in a schedule: a connection is accepted or ends, a message arrives on it, or
the main thread goes on. -/
inductive GatewayInput
  | accept
  | close
  | deliver (data : Bytes)
  | main (env : Env)

/-- The next step of a schedule. -/
def Gateway.followStep (B : Build) (g : Gateway) : GatewayInput → Option (GatewayEvent × Gateway)
  | .accept =>
    if g.active then none else some (.accept, { g with accepted := g.accepted + 1, active := true })
  | .close => if g.active then some (.close, { g with active := false }) else none
  | .deliver data =>
    if h : g.active = true ∧ data.length ≤ 65535 then
      some (.deliver g.accepted data,
        { g with node.tp := g.node.tp.receiveFromLibrary data h.2 })
    else none
  | .main env => (g.node.pollStep B env).toOption.map fun p => (g.event p.1, { g with node := p.2 })

theorem Gateway.followStep_step {input : GatewayInput}
    (h : g.followStep B input = some (e, g')) : GatewayStep B g e g' := by
  unfold Gateway.followStep at h
  cases input with
  | accept =>
    dsimp only at h
    split_ifs at h with hactive
    cases h
    exact .accept (Bool.not_eq_true _ ▸ hactive)
  | close =>
    dsimp only at h
    split_ifs at h with hactive
    cases h
    exact .close hactive
  | deliver data =>
    dsimp only at h
    split_ifs at h with hactive
    cases h
    exact .deliver hactive.1 data hactive.2
  | main env =>
    obtain ⟨⟨a, n⟩, hstep, heq⟩ := Option.map_eq_some_iff.1 h
    cases heq
    refine .main env ?_
    cases hpoll : g.node.pollStep B env with
    | error fault =>
      rw [hpoll] at hstep
      cases hstep
    | ok p =>
      rw [hpoll] at hstep
      cases hstep
      rfl

/-- The gateway after start-up, at the time zero. -/
def freshGateway : Gateway := ⟨freshNode, 0, false⟩

/-- The events of a schedule from start-up are those of a run. -/
theorem exists_gateway_run (B : Build) (schedule : List GatewayInput) (tr : List GatewayEvent)
    (h : (follow (Gateway.followStep B) freshGateway schedule).map (·.1) = some tr) :
    ∃ g, GatewayRun B tr g := by
  obtain ⟨⟨tr, g⟩, hfollow, rfl⟩ := Option.map_eq_some_iff.1 h
  have hstart : GatewayStart freshGateway := ⟨⟨rfl, ⟨_, _, rfl⟩, rfl, rfl⟩, rfl, rfl⟩
  refine ⟨g, (Run.start hstart).append ?_⟩
  exact follow_path (Gateway.followStep B) (fun _ _ _ _ hstep => Gateway.followStep_step hstep)
    hfollow

/-- A request arrives on the only connection, and its response is sent there. -/
theorem answersAsker_one_connection : ∃ tr, .send 1 [0x7E, 0x00] ∈ tr ∧ AnswersAsker tr := by
  obtain ⟨g, hrun⟩ := exists_gateway_run ⟨65535, .test⟩
    ([.accept, .deliver testerPresentRequest] ++ List.replicate 3 (.main (.fair 0)) ++
      List.replicate 2 (.main (.fair 1000)))
    [.accept, .deliver 1 testerPresentRequest, .main .poll, .main .peek,
      .main (.evaluate testerPresentRequest), .main .poll, .send 1 [0x7E, 0x00]] (by decide +kernel)
  exact ⟨_, by decide, (answersAsker_iff hrun).2 (keepsConnection_of_single (by decide))⟩

/-- **A request is answered on a later connection**, if its connection ends and the next one is
accepted before the response is due. -/
theorem answered_on_later_connection :
    ¬∀ (B : Build) (tr : List GatewayEvent) (g : Gateway), GatewayRun B tr g → AnswersAsker tr := by
  intro hclaim
  obtain ⟨g, hrun⟩ := exists_gateway_run ⟨65535, .test⟩
    ([.accept, .deliver testerPresentRequest] ++ List.replicate 3 (.main (.fair 0)) ++
      [.close, .accept] ++ List.replicate 2 (.main (.fair 1000)))
    [.accept, .deliver 1 testerPresentRequest, .main .poll, .main .peek,
      .main (.evaluate testerPresentRequest), .close, .accept, .main .poll, .send 2 [0x7E, 0x00]]
    (by decide +kernel)
  have hanswering : Answering [.accept, .deliver 1 testerPresentRequest, .main .poll, .main .peek,
      .main (.evaluate testerPresentRequest), .close, .accept, .main .poll] 1 _ :=
    @Answering.intro [.accept] 1 testerPresentRequest [.main .poll, .main .peek] (by simp)
      testerPresentRequest [.close, .accept, .main .poll] (by simp) (by simp)
  have hsame : 2 = 1 := (hclaim _ _ _ hrun _ _ [] rfl 2 _ rfl).2 1 _ hanswering
  simp at hsame

end EcuUpgrade
