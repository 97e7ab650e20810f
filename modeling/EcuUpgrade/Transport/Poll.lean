import EcuUpgrade.Server.Polls

/-!
# The transport and the polling loop

`DoIPTp` of `doiptp.cpp` is shared by two threads: the receiver thread calls
`ReceiveFromLibrary`, the main thread polls the UDS server, which peeks, sends and acknowledges.
Each of these takes the lock or touches nothing that is shared, so that they are the atomic steps;
between them, `UDSServerPoll` is at one of the points of `PollPoint`. A client sends its next
request when it has been sent the response to the previous one.

## Main definitions

* `DoIPTp`: the transport, with its three locked operations.
* `Node`: transport, UDS server and client.
* `Node.pollStep`: the next step of the main thread.
* `NodeStep`, `NodeRun`: the steps of either thread.

## Main results

* `pollStep_cases`: what a step of the main thread is.
* `NodeRun.exists_pollRun`: the steps of the main thread are polls of the server.
-/

namespace EcuUpgrade

open ResponseCode

/-- The members of `DoIPTp` that the two threads share. -/
structure DoIPTp where
  recvBuf : ℕ → UInt8
  recvLen : ℕ
  ackedLen : ℕ
  recvLen_le : recvLen ≤ 65535

/-- `DoIPTp` after start-up: it has static storage. -/
def DoIPTp.initial : DoIPTp := ⟨fun _ => 0, 0, 0, Nat.zero_le _⟩

/-- `ReceiveFromLibrary`. -/
def DoIPTp.receiveFromLibrary (tp : DoIPTp) (data : Bytes) (h : data.length ≤ 65535) : DoIPTp where
  recvBuf i := data.getD i (tp.recvBuf i)
  recvLen := data.length
  ackedLen := tp.ackedLen
  recvLen_le := h

/-- A number of received bytes. -/
abbrev RecvLen : Type := { n : ℕ // n ≤ 65535 }

/-- `DoipTpPeek`: the returned length, and the transport after it. -/
def DoIPTp.doipTpPeek (tp : DoIPTp) : RecvLen × DoIPTp :=
  if tp.recvLen = tp.ackedLen then (⟨tp.recvLen, tp.recvLen_le⟩, tp)
  else if tp.ackedLen < tp.recvLen then
    (⟨tp.recvLen, tp.recvLen_le⟩, { tp with ackedLen := tp.recvLen })
  else (⟨0, Nat.zero_le _⟩, tp)

/-- `DoipTpAckRecv`. -/
def DoIPTp.doipTpAckRecv (tp : DoIPTp) : DoIPTp :=
  { tp with recvLen := 0, ackedLen := 0, recvLen_le := Nat.zero_le _ }

/-- Where the main thread is: before the next call of `UDSServerPoll`, before `UDSTpPeek`, before
`evaluateServiceResponse` of as many bytes as were peeked, before `UDSTpSend`, or before
`UDSTpAckRecv`. -/
inductive PollPoint
  | start
  | peek
  | evaluate (recvLen : RecvLen)
  | send
  | ackRecv
  deriving DecidableEq

/-- The transport, the UDS server in its polling loop, and whether the client waits for a
response. -/
structure Node where
  tp : DoIPTp
  sys : Sys
  point : PollPoint
  waiting : Bool

/-- What a step does. -/
inductive Action
  | receive (data : Bytes)
  | poll
  | peek
  | evaluate (request : Bytes)
  | send (response : Bytes)
  | ackRecv

variable (B : Build) (env : Env)

/-! ### `UDSServerPoll` -/

/-- `UDSServerPoll` up to its first use of the transport, or its end. -/
def Node.poll (n : Node) : Except Fault Node :=
  let s := n.sys.pollTimers B env
  if s.srv.requestInProgress then
    match s.pollPending B env with
    | .error e => .error e
    | .ok s => .ok { n with
        sys := s
        point := if udsTimeAfter (env.udsMillis 3) s.srv.p2Timer then .send else .start }
  else .ok { n with sys := s, point := if s.srv.notReadyToReceive then .start else .peek }

/-- `UDSTpPeek`. -/
def Node.peek (n : Node) : Node :=
  let (ret, tp) := n.tp.doipTpPeek
  { n with
    tp := tp
    sys := { n.sys with
      srv.r.recvBuf := tp.recvBuf
      srv.r.recvLen := ret.1
      srv.r.sendBufSize := B.udsTpMtu.toNat }
    point := if 0 < ret.1 then .evaluate ret else .start }

/-- The request that `r->recv_buf` and `r->recv_len` are. -/
def Node.request (n : Node) (recvLen : RecvLen) : Request :=
  ⟨n.tp.recvBuf, recvLen.1, recvLen.2⟩

/-- `evaluateServiceResponse` of a peeked request. -/
def Node.evaluate (n : Node) (recvLen : RecvLen) : Except Fault Node :=
  match processRequest B env n.sys (n.request recvLen) with
  | .error e => .error e
  | .ok (response, s) => .ok { n with
      sys := { s with
        srv.requestInProgress := true
        srv.rcrrp := if response = kRequestCorrectlyReceivedResponsePending then true
          else s.srv.rcrrp }
      point := .start }

/-- `UDSTpSend`. The client gets the response. -/
def Node.send (n : Node) : Node :=
  let s := n.sys
  { n with
    sys := { s with srv.p2Timer := env.udsMillis 0 +
      if s.srv.rcrrp then s.srv.p2StarMs * 3 / 10 else s.srv.p2Ms.toUInt32 }
    point := if s.srv.rcrrp then .start else .ackRecv
    waiting := false }

/-- `UDSTpAckRecv`. -/
def Node.ackRecv (n : Node) : Node :=
  { n with
    tp := n.tp.doipTpAckRecv
    sys := { n.sys with srv.requestInProgress := false }
    point := .start }

/-- The next step of the main thread, unless it ends the process. -/
def Node.pollStep (n : Node) : Except Fault (Action × Node) :=
  match n.point with
  | .start => (n.poll B env).map fun n' => (.poll, n')
  | .peek => .ok (.peek, n.peek B)
  | .evaluate recvLen => (n.evaluate B env recvLen).map fun n' =>
      (.evaluate (bytesAt n.tp.recvBuf 0 recvLen.1), n')
  | .send => .ok (.send n.sys.srv.r.sendBuf, n.send env)
  | .ackRecv => .ok (.ackRecv, n.ackRecv)

/-- `ReceiveFromLibrary`, if the client is to send a request. -/
def Node.receive (n : Node) (data : Bytes) : Option Node :=
  if h : n.waiting = false ∧ data.length ≤ 65535 then
    some { n with tp := n.tp.receiveFromLibrary data h.2, waiting := true }
  else none

/-! ### Runs -/

/-- The node after start-up. -/
def NodeStart (n : Node) : Prop :=
  n.tp = .initial ∧ ServerStart n.sys ∧ n.point = .start ∧ n.waiting = false

/-- A step of the receiver thread or of the main thread. -/
def NodeStep (n : Node) (a : Action) (n' : Node) : Prop :=
  (∃ data, a = .receive data ∧ n.receive data = some n') ∨
    ∃ env, n.pollStep B env = .ok (a, n')

/-- A run of both threads, in any order of their steps. -/
abbrev NodeRun : List Action → Node → Prop := Runs.Run NodeStart (NodeStep B)

/-! ### The steps of the main thread as polls -/

variable {B env} {s : Sys} {n n' : Node} {a : Action} {tr done : List Action}

theorem eq_of_map_ok {x : Except Fault Node} {b : Action}
    (h : x.map (fun n' => (b, n')) = .ok (a, n')) : a = b ∧ x = .ok n' := by
  cases x with
  | error e => cases h
  | ok m =>
    cases h
    exact ⟨rfl, rfl⟩

/-- **What a step of the main thread is**, by the point where it is. -/
theorem pollStep_cases (h : n.pollStep B env = .ok (a, n')) :
    (n.point = .start ∧ a = .poll ∧ n.poll B env = .ok n') ∨
      (n.point = .peek ∧ a = .peek ∧ n' = n.peek B) ∨
      (∃ recvLen, n.point = .evaluate recvLen ∧
        a = .evaluate (bytesAt n.tp.recvBuf 0 recvLen.1) ∧ n.evaluate B env recvLen = .ok n') ∨
      (n.point = .send ∧ a = .send n.sys.srv.r.sendBuf ∧ n' = n.send env) ∨
      n.point = .ackRecv ∧ a = .ackRecv ∧ n' = n.ackRecv := by
  unfold Node.pollStep at h
  split at h
  · next hpoint => exact .inl ⟨hpoint, eq_of_map_ok h⟩
  · next hpoint =>
    cases h
    exact .inr (.inl ⟨hpoint, rfl, rfl⟩)
  · next recvLen hpoint => exact .inr (.inr (.inl ⟨recvLen, hpoint, eq_of_map_ok h⟩))
  · next hpoint =>
    cases h
    exact .inr (.inr (.inr (.inl ⟨hpoint, rfl, rfl⟩)))
  · next hpoint =>
    cases h
    exact .inr (.inr (.inr (.inr ⟨hpoint, rfl, rfl⟩)))

/-- A step of the main thread. -/
def Action.isMain : Action → Bool
  | .receive _ => false
  | _ => true

/-- The step that an event of a poll is. -/
def PollEvent.action : PollEvent → Option Action
  | .peek => some .peek
  | .evaluate x => some (.evaluate (bytesAt x.req.buf 0 x.req.len))
  | .reevaluate => none
  | .send response => some (.send response)
  | .ackRecv => some .ackRecv

/-- The steps that a poll is. -/
def Poll.actions (p : Poll) : List Action := .poll :: p.events.filterMap PollEvent.action

/-- The main thread has made some steps of a poll that began in the process `s`. -/
inductive Node.Within (B : Build) (n : Node) (s : Sys) : List Action → Prop
  | start (hpoint : n.point = .start) (hsys : n.sys = s) : n.Within B s []
  | peek (env : Env) (hpoint : n.point = .peek) (hsys : n.sys = s.pollTimers B env)
      (hprogress : s.srv.requestInProgress = false) (hready : s.srv.notReadyToReceive = false) :
      n.Within B s [.poll]
  | evaluate (env : Env) (recvLen : RecvLen) (hpoint : n.point = .evaluate recvLen)
      (hpos : 0 < recvLen.1) (q : Request) (hsys : n.sys = (s.pollTimers B env).peeked B q)
      (hprogress : s.srv.requestInProgress = false) (hready : s.srv.notReadyToReceive = false) :
      n.Within B s [.poll, .peek]
  | send (env : Env) (hpoint : n.point = .send) (hsys : n.sys = s.pollTimers B env)
      (hprogress : s.srv.requestInProgress = true)
      (hlate : udsTimeAfter (env.udsMillis 3) (s.pollTimers B env).srv.p2Timer = true) :
      n.Within B s [.poll]
  | ackRecv (env : Env) (hpoint : n.point = .ackRecv)
      (hsys : n.sys.acknowledged n.sys.srv.p2Timer = (s.pollTimers B env).acknowledged
        (env.udsMillis 4 + (s.pollTimers B env).srv.p2Ms.toUInt32))
      (hprogress : s.srv.requestInProgress = true)
      (hlate : udsTimeAfter (env.udsMillis 3) (s.pollTimers B env).srv.p2Timer = true) :
      n.Within B s [.poll, .send s.srv.r.sendBuf]

/-- The main thread goes on within the poll, or ends it. -/
def Node.Advances (B : Build) (n : Node) (s : Sys) (done : List Action) : Prop :=
  n.Within B s done ∨
    ∃ p t, PollStep B s p t ∧ p.actions = done ∧ n.point = .start ∧ n.sys = t

/-- A poll before it uses the transport, with the settings of the server. -/
theorem Node.poll_of_settings (hs : Settings n.sys) : n.poll B env = .ok { n with
    sys := n.sys.pollTimers B env
    point :=
      if n.sys.srv.requestInProgress then
        if udsTimeAfter (env.udsMillis 3) (n.sys.pollTimers B env).srv.p2Timer then .send
        else .start
      else if n.sys.srv.notReadyToReceive then .start else .peek } := by
  unfold Node.poll
  dsimp only
  rw [pollTimers_requestInProgress, pollTimers_notReadyToReceive,
    pollPending_of_settings hs.pollTimers]
  cases hprogress : n.sys.srv.requestInProgress with
  | true => rfl
  | false => rfl

/-- A poll that begins uses the transport, or ends at once. -/
theorem Node.advances_poll (hs : Settings n.sys) (h : n.poll B env = .ok n') :
    n'.Advances B n.sys [.poll] := by
  have hpoll : n.sys.udsServerPoll B env env ⟨n.tp.recvBuf, 0, by simp⟩ = _ :=
    udsServerPoll_of_settings hs env _
  obtain rfl := Except.ok.inj ((Node.poll_of_settings hs).symm.trans h)
  cases hprogress : n.sys.srv.requestInProgress with
  | true =>
    rw [hprogress, if_pos rfl] at hpoll
    cases hlate : udsTimeAfter (env.udsMillis 3) (n.sys.pollTimers B env).srv.p2Timer with
    | true => exact .inl (.send env rfl rfl hprogress hlate)
    | false =>
      rw [hlate, if_neg Bool.false_ne_true] at hpoll
      exact .inr ⟨⟨env, env, _, []⟩, _, hpoll, rfl, rfl, rfl⟩
  | false =>
    rw [hprogress, if_neg Bool.false_ne_true] at hpoll
    cases hready : n.sys.srv.notReadyToReceive with
    | true =>
      rw [hready, if_pos rfl] at hpoll
      exact .inr ⟨⟨env, env, _, []⟩, _, hpoll, rfl, rfl, rfl⟩
    | false => exact .inl (.peek env rfl rfl hprogress hready)

/-- A peek that returns nothing ends the poll. -/
theorem Node.advances_peek (hs : Settings s) (hsys : n.sys = s.pollTimers B env)
    (hprogress : s.srv.requestInProgress = false) (hready : s.srv.notReadyToReceive = false) :
    (n.peek B).Advances B s [.poll, .peek] := by
  set ret := n.tp.doipTpPeek.1
  set q : Request := ⟨n.tp.doipTpPeek.2.recvBuf, ret.1, ret.2⟩
  have hpeeked : (n.peek B).sys = (s.pollTimers B env).peeked B q := by
    rw [← hsys]
    rfl
  have hpoint : (n.peek B).point = if 0 < ret.1 then .evaluate ret else .start := rfl
  by_cases hpos : 0 < ret.1
  · rw [if_pos hpos] at hpoint
    exact .inl (.evaluate env ret hpoint hpos q hpeeked hprogress hready)
  · rw [if_neg hpos] at hpoint
    have hpoll : s.udsServerPoll B env env q =
        .ok ((s.pollTimers B env).peeked B q, [.peek]) := by
      rw [udsServerPoll_of_settings hs, hprogress, hready]
      exact if_pos (Nat.eq_zero_of_not_pos hpos)
    exact .inr ⟨⟨env, env, q, [.peek]⟩, _, hpoll, rfl, hpoint, hpeeked⟩

/-- The evaluation of what lies in the buffer by then ends the poll. -/
theorem Node.advances_evaluate {env' : Env} {recvLen : RecvLen} {q : Request} (hs : Settings s)
    (hpos : 0 < recvLen.1) (hsys : n.sys = (s.pollTimers B env).peeked B q)
    (hprogress : s.srv.requestInProgress = false) (hready : s.srv.notReadyToReceive = false)
    (h : n.evaluate B env' recvLen = .ok n') :
    n'.Advances B s [.poll, .peek, .evaluate (bytesAt n.tp.recvBuf 0 recvLen.1)] := by
  have hprocess : processRequest B env' n.sys (n.request recvLen) =
      processRequest B env' (s.pollTimers B env) (n.request recvLen) := by
    rw [hsys]
    rfl
  unfold Node.evaluate at h
  rw [hprocess] at h
  have hpoll : s.udsServerPoll B env env' (n.request recvLen) =
      (s.pollTimers B env).pollPeek B env' (n.request recvLen) := by
    rw [udsServerPoll_of_settings hs, hprogress, hready]
    rfl
  unfold Sys.pollPeek at hpoll
  rw [if_neg (show (n.request recvLen).len ≠ 0 from hpos.ne')] at hpoll
  cases hresult : processRequest B env' (s.pollTimers B env) (n.request recvLen) with
  | error e =>
    rw [hresult] at h
    cases h
  | ok r =>
    rw [hresult] at h hpoll
    obtain rfl := Except.ok.inj h
    exact .inr ⟨⟨env, env', n.request recvLen, _⟩, _, hpoll, rfl, rfl, rfl⟩

/-- The clock as in one environment, but for the time after sending. -/
def Env.sendingAt (env env' : Env) : Env :=
  { env with millis := fun k => if k = 4 then env'.millis 0 else env.millis k }

/-- After a response is sent, its acknowledgement ends the poll. -/
theorem Node.within_send {env' : Env} (hs : Settings s) (hsys : n.sys = s.pollTimers B env)
    (hprogress : s.srv.requestInProgress = true)
    (hlate : udsTimeAfter (env.udsMillis 3) (s.pollTimers B env).srv.p2Timer = true) :
    (n.send env').Within B s [.poll, .send n.sys.srv.r.sendBuf] := by
  have hrcrrp : n.sys.srv.rcrrp = false := hsys ▸ hs.pollTimers.rcrrp
  have htimers : s.pollTimers B (env.sendingAt env') = s.pollTimers B env := rfl
  have hsent : n.sys.srv.r.sendBuf = s.srv.r.sendBuf := by rw [hsys, pollTimers_sendBuf]
  rw [hsent]
  refine .ackRecv (env.sendingAt env') ?_ ?_ hprogress ?_
  · show (if n.sys.srv.rcrrp then PollPoint.start else .ackRecv) = .ackRecv
    rw [hrcrrp]
    rfl
  · show n.sys.acknowledged (env'.udsMillis 0 + if n.sys.srv.rcrrp then _ else _) = _
    rw [hrcrrp, htimers, ← hsys]
    rfl
  · rw [htimers]
    exact hlate

theorem Node.advances_ackRecv (hs : Settings s)
    (hsys : n.sys.acknowledged n.sys.srv.p2Timer = (s.pollTimers B env).acknowledged
      (env.udsMillis 4 + (s.pollTimers B env).srv.p2Ms.toUInt32))
    (hprogress : s.srv.requestInProgress = true)
    (hlate : udsTimeAfter (env.udsMillis 3) (s.pollTimers B env).srv.p2Timer = true) :
    n.ackRecv.Advances B s [.poll, .send s.srv.r.sendBuf, .ackRecv] := by
  have hpoll : s.udsServerPoll B env env ⟨n.tp.recvBuf, 0, by simp⟩ = _ :=
    udsServerPoll_of_settings hs env _
  rw [hprogress, if_pos rfl, hlate, if_pos rfl, ← hsys] at hpoll
  exact .inr ⟨⟨env, env, _, _⟩, _, hpoll, rfl, rfl, rfl⟩

/-- A message that is received leaves the main thread where it is. -/
theorem Node.Within.receive {data : Bytes} (hn : n.Within B s done)
    (h : n.receive data = some n') : n'.Within B s done := by
  unfold Node.receive at h
  split_ifs at h
  obtain rfl := Option.some.inj h
  cases hn with
  | start hpoint hsys => exact .start hpoint hsys
  | peek env hpoint hsys hprogress hready => exact .peek env hpoint hsys hprogress hready
  | evaluate env recvLen hpoint hpos q hsys hprogress hready =>
    exact .evaluate env recvLen hpoint hpos q hsys hprogress hready
  | send env hpoint hsys hprogress hlate => exact .send env hpoint hsys hprogress hlate
  | ackRecv env hpoint hsys hprogress hlate => exact .ackRecv env hpoint hsys hprogress hlate

/-- **A step of either thread goes on with the poll of the main thread, or ends it.** -/
theorem NodeStep.advances (hs : Settings s) (hn : n.Within B s done) (h : NodeStep B n a n') :
    n'.Advances B s (done ++ [a].filter Action.isMain) := by
  rcases h with ⟨data, rfl, hreceive⟩ | ⟨env', h⟩
  · rw [show [Action.receive data].filter Action.isMain = [] from rfl, List.append_nil]
    exact .inl (hn.receive hreceive)
  · unfold Node.pollStep at h
    cases hn with
    | start hpoint hsys =>
      rw [hpoint] at h
      obtain ⟨rfl, hpoll⟩ := eq_of_map_ok h
      subst hsys
      exact Node.advances_poll hs hpoll
    | peek env hpoint hsys hprogress hready =>
      rw [hpoint] at h
      obtain ⟨rfl, rfl⟩ := Prod.mk.inj (Except.ok.inj h)
      exact Node.advances_peek hs hsys hprogress hready
    | evaluate env recvLen hpoint hpos q hsys hprogress hready =>
      rw [hpoint] at h
      obtain ⟨rfl, hevaluate⟩ := eq_of_map_ok h
      exact Node.advances_evaluate hs hpos hsys hprogress hready hevaluate
    | send env hpoint hsys hprogress hlate =>
      rw [hpoint] at h
      obtain ⟨rfl, rfl⟩ := Prod.mk.inj (Except.ok.inj h)
      exact .inl (Node.within_send hs hsys hprogress hlate)
    | ackRecv env hpoint hsys hprogress hlate =>
      rw [hpoint] at h
      obtain ⟨rfl, rfl⟩ := Prod.mk.inj (Except.ok.inj h)
      exact Node.advances_ackRecv hs hsys hprogress hlate

/-- **Every run of both threads is one of polls**, whenever messages arrive: its steps of the main
thread are those of the polls of the server, up to the poll that is under way. -/
theorem NodeRun.exists_pollRun (h : NodeRun B tr n) : ∃ polls s done, PollRun B polls s ∧
    n.Within B s done ∧ tr.filter Action.isMain = polls.flatMap Poll.actions ++ done := by
  induction h with
  | start h => exact ⟨[], _, [], .start h.2.1, .start h.2.2.1 rfl, rfl⟩
  | snoc _ hstep ih =>
    obtain ⟨polls, s, done, hpolls, hwithin, htr⟩ := ih
    rcases NodeStep.advances hpolls.settings hwithin hstep with
      hwithin' | ⟨p, t, hpoll, hactions, hpoint, hsys⟩
    · exact ⟨polls, s, _, hpolls, hwithin', by rw [List.filter_append, htr, List.append_assoc]⟩
    · refine ⟨polls ++ [p], t, [], hpolls.snoc hpoll, .start hpoint hsys, ?_⟩
      rw [List.filter_append, htr, List.append_assoc, ← hactions]
      simp

end EcuUpgrade
