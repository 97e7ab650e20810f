import EcuUpgrade.Transport.Poll

/-!
# The polling loop over any transport

`UDSServerPoll` uses its transport through the functions of `UDSTpHandle`. Whatever the transport
is, as long as it keeps the contract of that interface, the polling loop processes the requests one
after the other: it evaluates a request once, sends the response, acknowledges the request, and only
then looks for the next one.

## Main definitions

* `UDSTpHandle`: the functions of a transport.
* `Ledger`, `UDSTpHandle.Honours`: the messages received and acknowledged, and the contract.
* `PollLoop.udsServerPoll`: one poll.
* `LoopStep`, `LoopRun`: the polls, and the steps of the transport between them.

## Main results

* `doIPTp_honours`, `receives_deliver`: `DoIPTp` keeps the contract, and a message delivered to its
  empty buffer is received.
* `udsServerPoll_doIPTp`: a poll over `DoIPTp`.
* `LoopRun.processed`: requests are processed one after the other.
-/

namespace EcuUpgrade

open ResponseCode

/-! ### Transports -/

/-- What `peek` returns: the memory to which `p_buf` is set, the size of the received data, and the
addressing in `info`. -/
structure Peeked where
  buf : ℕ → UInt8
  len : ℕ
  taType : TaType

/-- The received data. -/
def Peeked.data (m : Peeked) : Bytes := bytesAt m.buf 0 m.len

/-- `UDSTpHandle`: the functions of a transport whose states are of type `τ`. That a send failed is
only reported to the application, which does not handle the report. -/
structure UDSTpHandle (τ : Type*) where
  getSendBuf : τ → ℕ × τ
  send : τ → Bytes → τ
  poll : τ → τ
  peek : τ → Peeked × τ
  ackRecv : τ → τ

/-- The messages that a transport has received up to a state, in order, and how many of them have
been acknowledged. -/
structure Ledger (τ : Type*) where
  received : τ → List Bytes
  acknowledged : τ → ℕ

variable {τ : Type*}

/-- The transport may have received further messages. -/
def Ledger.Receives (L : Ledger τ) (σ σ' : τ) : Prop :=
  L.received σ <+: L.received σ' ∧ L.acknowledged σ' = L.acknowledged σ

theorem Ledger.Receives.trans {L : Ledger τ} {σ₁ σ₂ σ₃ : τ} (h : L.Receives σ₁ σ₂)
    (h' : L.Receives σ₂ σ₃) : L.Receives σ₁ σ₃ :=
  ⟨h.1.trans h'.1, h'.2.trans h.2⟩

/-- **The contract of `UDSTpHandle`.** What `peek` returns is the first message that is not
acknowledged, until `ackRecv` acknowledges it; it returns nothing if there is no such message.
Messages may arrive during any call. -/
structure UDSTpHandle.Honours (T : UDSTpHandle τ) (L : Ledger τ) : Prop where
  getSendBuf σ : L.Receives σ (T.getSendBuf σ).2
  send σ data : L.Receives σ (T.send σ data)
  poll σ : L.Receives σ (T.poll σ)
  peek σ : L.Receives σ (T.peek σ).2
  peeked σ : (T.peek σ).1.len ≠ 0 →
    (L.received (T.peek σ).2)[L.acknowledged σ]? = some (T.peek σ).1.data
  ackRecv σ : L.received σ <+: L.received (T.ackRecv σ)
  acknowledged σ : L.acknowledged σ < (L.received σ).length →
    L.acknowledged (T.ackRecv σ) = L.acknowledged σ + 1

/-! ### `UDSServerPoll` -/

/-- The server in its polling loop, and its transport. -/
structure PollLoop (τ : Type*) where
  sys : Sys
  tp : τ

/-- What a poll does with a request. -/
inductive PollAct
  | evaluate (request response : Bytes)
  | reevaluate
  | send (response : Bytes)
  | ackRecv
  deriving DecidableEq, Repr

variable (T : UDSTpHandle τ) (B : Build) (env : Env)

/-- `UDSTpSend` and what follows it. -/
def PollLoop.send (p : PollLoop τ) : PollLoop τ × List PollAct :=
  let sendBuf := p.sys.srv.r.sendBuf
  let tp := T.send p.tp sendBuf
  if p.sys.srv.rcrrp then
    (⟨{ p.sys with srv.p2Timer := env.udsMillis 4 + p.sys.srv.p2StarMs * 3 / 10 }, tp⟩,
      [.send sendBuf])
  else
    (⟨{ p.sys with
        srv.p2Timer := env.udsMillis 4 + p.sys.srv.p2Ms.toUInt32
        srv.requestInProgress := false }, T.ackRecv tp⟩,
      [.send sendBuf, .ackRecv])

/-- The process when it has peeked at a message, with a send buffer of a size. -/
def Sys.peekedAt (s : Sys) (m : Peeked) (sendBufSize : ℕ) : Sys :=
  { s with
    srv.r.recvBuf := m.buf
    srv.r.recvLen := m.len
    srv.r.taType := m.taType
    srv.r.sendBufSize := sendBufSize }

/-- If the function of the upgrade thread has returned meanwhile, `UpgradeServerTest` knows. -/
def Sys.awaitUpgrade (s : Sys) : Sys :=
  s.setUpgrading (if env.upgradeEnds then false else s.app.upgrading)

/-- `UDSTpPeek`, `UDSTpGetSendBuf` and the evaluation of what was peeked at, unless it is empty. -/
def PollLoop.receive (p : PollLoop τ) : Except Fault (PollLoop τ × List PollAct) :=
  let (m, tp) := T.peek p.tp
  let (sendBufSize, tp) := T.getSendBuf tp
  let s := p.sys.peekedAt m sendBufSize
  if m.len = 0 then .ok (⟨s, tp⟩, [])
  else match evaluateServiceResponse B env (s.awaitUpgrade env) with
  | .error e => .error e
  | .ok (response, s) =>
    .ok (⟨{ s with
        srv.requestInProgress := true
        srv.rcrrp := if response = kRequestCorrectlyReceivedResponsePending then true
          else s.srv.rcrrp }, tp⟩,
      [.evaluate m.data s.srv.r.sendBuf])

/-- `UDSServerPoll`. The times it reads are in `env`, the outcomes for its evaluation in `env'`. -/
def PollLoop.udsServerPoll (env' : Env) (p : PollLoop τ) :
    Except Fault (PollLoop τ × List PollAct) :=
  let s := p.sys.pollTimers B env
  let tp := T.poll p.tp
  if s.srv.requestInProgress then
    let evaluations := if s.srv.rcrrp then [PollAct.reevaluate] else []
    match s.pollPending B env with
    | .error e => .error e
    | .ok s =>
      if udsTimeAfter (env.udsMillis 3) s.srv.p2Timer then
        let (p, acts) := PollLoop.send T env ⟨s, tp⟩
        .ok (p, evaluations ++ acts)
      else .ok (⟨s, tp⟩, evaluations)
  else if s.srv.notReadyToReceive then .ok (⟨s, tp⟩, [])
  else PollLoop.receive T B env' ⟨s, tp⟩

/-! ### Runs -/

/-- The loop at start-up: no message has been acknowledged yet. -/
def LoopStart (L : Ledger τ) (p : PollLoop τ) : Prop :=
  ServerStart p.sys ∧ L.acknowledged p.tp = 0

/-- The transport goes on, or a poll leaves the process running. -/
inductive LoopStep (L : Ledger τ) (p : PollLoop τ) : List PollAct → PollLoop τ → Prop
  | transport (tp : τ) (h : L.Receives p.tp tp) : LoopStep L p [] ⟨p.sys, tp⟩
  | poll (env env' : Env) {acts : List PollAct} {p' : PollLoop τ}
      (h : p.udsServerPoll T B env env' = .ok (p', acts)) : LoopStep L p acts p'

/-- A run of the polling loop, labelled with what its steps do. -/
abbrev LoopRun (L : Ledger τ) : List (List PollAct) → PollLoop τ → Prop :=
  Runs.Run (LoopStart L) (LoopStep T B L)

variable {T B env} {L : Ledger τ} {p p' : PollLoop τ} {acts : List PollAct}
  {tr : List (List PollAct)}

/-- The end of a poll that answers the request in progress. -/
theorem PollLoop.send_eq (h : p.sys.srv.rcrrp = false) : p.send T env =
    (⟨p.sys.acknowledged (env.udsMillis 4 + p.sys.srv.p2Ms.toUInt32),
      T.ackRecv (T.send p.tp p.sys.srv.r.sendBuf)⟩, [.send p.sys.srv.r.sendBuf, .ackRecv]) := by
  have hpending : ¬p.sys.srv.rcrrp = true := by simp [h]
  exact if_neg hpending

/-! ### `DoIPTp` -/

/-- `DoIPTp`, with the messages that it has received and that were acknowledged. -/
structure RecordedTp where
  tp : DoIPTp
  acknowledged : List Bytes

/-- The message in the buffer. -/
def RecordedTp.held (σ : RecordedTp) : List Bytes :=
  if σ.tp.recvLen = 0 then [] else [bytesAt σ.tp.recvBuf 0 σ.tp.recvLen]

/-- `DoIPTp` after a `DoipTpPeek`. -/
def RecordedTp.peek (σ : RecordedTp) : RecordedTp := { σ with tp := σ.tp.doipTpPeek.2 }

/-- The functions of `DoIPTp`. Its `peek` leaves `info` as it was initialised. -/
def doIPTpHandle (B : Build) : UDSTpHandle RecordedTp where
  getSendBuf σ := (B.udsTpMtu.toNat, σ)
  send σ _ := σ
  poll σ := σ
  peek σ := (⟨σ.peek.tp.recvBuf, σ.tp.doipTpPeek.1, .physical⟩, σ.peek)
  ackRecv σ := ⟨σ.tp.doipTpAckRecv, σ.acknowledged ++ σ.held⟩

/-- The messages that `DoIPTp` has received. -/
def recordedLedger : Ledger RecordedTp where
  received σ := σ.acknowledged ++ σ.held
  acknowledged σ := σ.acknowledged.length

/-- `ReceiveFromLibrary`, of a message that is not empty. -/
def RecordedTp.deliver (σ : RecordedTp) (data : Bytes) (h : data.length ≤ 65535) : RecordedTp :=
  { σ with tp := σ.tp.receiveFromLibrary data h }

@[simp] theorem held_peek (σ : RecordedTp) : σ.peek.held = σ.held := by
  unfold RecordedTp.held RecordedTp.peek DoIPTp.doipTpPeek
  split_ifs <;> rfl

theorem doipTpPeek_of_ne_zero (tp : DoIPTp) (h : (tp.doipTpPeek.1 : ℕ) ≠ 0) :
    (tp.doipTpPeek.1 : ℕ) = tp.recvLen ∧ tp.doipTpPeek.2.recvBuf = tp.recvBuf := by
  unfold DoIPTp.doipTpPeek at h ⊢
  by_cases hacked : tp.recvLen = tp.ackedLen
  · rw [if_pos hacked]
    exact ⟨rfl, rfl⟩
  · rw [if_neg hacked] at h ⊢
    by_cases hless : tp.ackedLen < tp.recvLen
    · rw [if_pos hless]
      exact ⟨rfl, rfl⟩
    · rw [if_neg hless] at h
      exact absurd rfl h

/-- **`DoIPTp` keeps the contract**, as far as its functions are concerned. -/
theorem doIPTp_honours (B : Build) : (doIPTpHandle B).Honours recordedLedger where
  getSendBuf σ := ⟨List.prefix_refl _, rfl⟩
  send σ _ := ⟨List.prefix_refl _, rfl⟩
  poll σ := ⟨List.prefix_refl _, rfl⟩
  peek σ := by
    refine ⟨?_, rfl⟩
    show σ.acknowledged ++ σ.held <+: σ.acknowledged ++ σ.peek.held
    simp only [held_peek, List.prefix_refl]
  peeked σ h := by
    obtain ⟨hlen, hbuf⟩ := doipTpPeek_of_ne_zero σ.tp h
    have hne : σ.tp.recvLen ≠ 0 := hlen ▸ h
    show (σ.acknowledged ++ σ.peek.held)[σ.acknowledged.length]? =
      some (bytesAt σ.tp.doipTpPeek.2.recvBuf 0 σ.tp.doipTpPeek.1)
    rw [held_peek, hlen, hbuf, RecordedTp.held, if_neg hne]
    simp
  ackRecv σ := List.prefix_append _ _
  acknowledged σ h := by
    have hne : σ.held ≠ [] := by
      intro hnil
      simp [recordedLedger, hnil] at h
    show (σ.acknowledged ++ σ.held).length = σ.acknowledged.length + 1
    unfold RecordedTp.held at hne ⊢
    split_ifs at hne ⊢ with hlen
    · exact absurd rfl hne
    · simp

/-- The action of an event of a poll. -/
def PollEvent.act : PollEvent → Option PollAct
  | .peek => none
  | .evaluate x => some (.evaluate (bytesAt x.req.buf 0 x.req.len) x.sent)
  | .reevaluate => some .reevaluate
  | .send response => some (.send response)
  | .ackRecv => some .ackRecv

/-- The request at which `DoIPTp` lets the server peek. -/
def RecordedTp.request (σ : RecordedTp) : Request :=
  ⟨σ.peek.tp.recvBuf, σ.tp.doipTpPeek.1, σ.tp.doipTpPeek.1.2⟩

theorem peekedAt_eq {s : Sys} (hs : s.srv.r.taType = .physical) (q : Request) :
    s.peekedAt ⟨q.buf, q.len, .physical⟩ B.udsTpMtu.toNat = s.peeked B q := by
  unfold Sys.peekedAt
  rw [← hs]
  rfl

theorem receive_doIPTp {p p' : PollLoop RecordedTp} (hs : p.sys.srv.r.taType = .physical)
    (h : p.receive (doIPTpHandle B) B env = .ok (p', acts)) :
    ∃ events, p.sys.pollPeek B env p.tp.request = .ok (p'.sys, events) ∧
      acts = events.filterMap PollEvent.act := by
  unfold Sys.pollPeek
  by_cases hlen : p.tp.request.len = 0
  · have hp' : .ok (_, []) = Except.ok (p', acts) := (if_pos hlen).symm.trans h
    obtain ⟨rfl, rfl⟩ := Prod.mk.inj (Except.ok.inj hp')
    rw [if_pos hlen]
    exact ⟨[.peek], congrArg (fun s => Except.ok (s, [PollEvent.peek]))
      (peekedAt_eq hs p.tp.request).symm, rfl⟩
  · have hp' : (match evaluateServiceResponse B env ((p.sys.peekedAt ⟨p.tp.request.buf,
          p.tp.request.len, .physical⟩ B.udsTpMtu.toNat).awaitUpgrade env) with
        | .error e => .error e
        | .ok (response, s) => _) = Except.ok (p', acts) := (if_neg hlen).symm.trans h
    rw [peekedAt_eq hs] at hp'
    rw [if_neg hlen]
    have hreceive : (p.sys.peeked B p.tp.request).awaitUpgrade env =
        p.sys.receive B env p.tp.request := rfl
    rw [hreceive] at hp'
    unfold processRequest
    cases heval : evaluateServiceResponse B env (p.sys.receive B env p.tp.request) with
    | error e =>
      rw [heval] at hp'
      cases hp'
    | ok result =>
      rw [heval] at hp'
      obtain ⟨rfl, rfl⟩ := Prod.mk.inj (Except.ok.inj hp')
      exact ⟨_, rfl, rfl⟩

/-- **A poll over `DoIPTp`** is one of the server with the request that `DoIPTp` holds. -/
theorem udsServerPoll_doIPTp {p p' : PollLoop RecordedTp} (hs : Settings p.sys) {env' : Env}
    (h : p.udsServerPoll (doIPTpHandle B) B env env' = .ok (p', acts)) :
    ∃ events, p.sys.udsServerPoll B env env' p.tp.request = .ok (p'.sys, events) ∧
      acts = events.filterMap PollEvent.act := by
  have hs' : Settings (p.sys.pollTimers B env) := hs.pollTimers
  unfold PollLoop.udsServerPoll at h
  unfold Sys.udsServerPoll
  dsimp only at h ⊢
  rw [pollPending_of_settings hs', hs'.rcrrp, if_neg Bool.false_ne_true] at h
  rw [pollPending_of_settings hs', hs'.rcrrp, if_neg Bool.false_ne_true]
  by_cases hprogress : (p.sys.pollTimers B env).srv.requestInProgress = true
  · rw [if_pos hprogress] at h ⊢
    dsimp only at h ⊢
    split_ifs at h ⊢
    · rw [PollLoop.send_eq hs'.rcrrp] at h
      rw [pollSend_of_settings hs']
      obtain ⟨rfl, rfl⟩ := Prod.mk.inj (Except.ok.inj h)
      exact ⟨_, rfl, rfl⟩
    · obtain ⟨rfl, rfl⟩ := Prod.mk.inj (Except.ok.inj h)
      exact ⟨_, rfl, rfl⟩
  · rw [if_neg hprogress] at h ⊢
    split_ifs at h ⊢
    · obtain ⟨rfl, rfl⟩ := Prod.mk.inj (Except.ok.inj h)
      exact ⟨_, rfl, rfl⟩
    · exact receive_doIPTp hs'.taType h

/-- A message delivered to the empty buffer is received. -/
theorem receives_deliver {σ : RecordedTp} {data : Bytes} (h : data.length ≤ 65535)
    (hempty : σ.tp.recvLen = 0) : recordedLedger.Receives σ (σ.deliver data h) := by
  refine ⟨?_, rfl⟩
  show σ.acknowledged ++ σ.held <+: σ.acknowledged ++ (σ.deliver data h).held
  rw [RecordedTp.held, if_pos hempty, List.append_nil]
  exact List.prefix_append _ _

/-! ### What a step does -/

/-- The process asks for no more time, and whether a request is in progress. -/
def Sys.InProgress (s : Sys) (b : Bool) : Prop :=
  s.srv.rcrrp = false ∧ s.srv.requestInProgress = b

theorem Sys.InProgress.pollTimers {s : Sys} {b : Bool} (h : s.InProgress b) :
    (s.pollTimers B env).InProgress b := by
  obtain ⟨-, -, -, -, -, hrcrrp, hprogress, -⟩ : Component.settings.Same s (s.pollTimers B env) :=
    pollTimers_same (by simp) env s
  exact ⟨hrcrrp.trans h.1, hprogress.trans h.2⟩

theorem Sys.InProgress.peekedAt {s : Sys} {b : Bool} (h : s.InProgress b) (m : Peeked)
    (sendBufSize : ℕ) : ((s.peekedAt m sendBufSize).awaitUpgrade env).InProgress b :=
  h

theorem pollPending_of_not_rcrrp {s : Sys} (h : s.srv.rcrrp = false) :
    s.pollPending B env = .ok s := by
  unfold Sys.pollPending
  rw [h]
  rfl

/-- A message received stays the one at its position. -/
theorem Ledger.Receives.getElem? {σ σ' : τ} (h : L.Receives σ σ') {i : ℕ} {m : Bytes}
    (hm : (L.received σ)[i]? = some m) : (L.received σ')[i]? = some m := by
  obtain ⟨rest, hrest⟩ := h.1
  obtain ⟨hi, -⟩ := List.getElem?_eq_some_iff.1 hm
  rw [← hrest, List.getElem?_append_left hi]
  exact hm

/-- **What a step of the loop does**: nothing, or it answers the request in progress, or it
evaluates the message that was peeked at. -/
inductive LoopCase (T : UDSTpHandle τ) (L : Ledger τ) (p : PollLoop τ) (acts : List PollAct)
    (p' : PollLoop τ) : Prop
  | idle (b : Bool) (hp : p.sys.InProgress b) (hp' : p'.sys.InProgress b) (hacts : acts = [])
      (hsent : b = true → p'.sys.srv.r.sendBuf = p.sys.srv.r.sendBuf)
      (htp : L.Receives p.tp p'.tp)
  | answer (hp : p.sys.InProgress true) (hp' : p'.sys.InProgress false)
      (hacts : acts = [.send p.sys.srv.r.sendBuf, .ackRecv])
      (htp : ∃ σ, L.Receives p.tp σ ∧ p'.tp = T.ackRecv σ)
  | evaluate (hp : p.sys.InProgress false) (hp' : p'.sys.InProgress true) (m : Bytes)
      (hacts : acts = [.evaluate m p'.sys.srv.r.sendBuf]) (htp : L.Receives p.tp p'.tp)
      (hm : (L.received p'.tp)[L.acknowledged p.tp]? = some m)

/-- A poll that looks for a message. -/
theorem PollLoop.receive_cases (hT : T.Honours L) (hp : p.sys.InProgress false)
    (h : p.receive T B env = .ok (p', acts)) : LoopCase T L p acts p' := by
  have hreceives : L.Receives p.tp (T.getSendBuf (T.peek p.tp).2).2 :=
    (hT.peek p.tp).trans (hT.getSendBuf _)
  unfold PollLoop.receive at h
  dsimp only at h
  split_ifs at h with hlen
  · obtain ⟨rfl, rfl⟩ := Prod.mk.inj (Except.ok.inj h)
    exact .idle false hp hp rfl (by simp) hreceives
  · split at h
    · cases h
    · next response t heval =>
      obtain ⟨rfl, rfl⟩ := Prod.mk.inj (Except.ok.inj h)
      have hfinal : response ≠ kRequestCorrectlyReceivedResponsePending :=
        evaluateServiceResponse_final (hp.peekedAt _ _).1 heval
      obtain ⟨-, -, -, -, -, hrcrrp, -⟩ : Component.Same _ t .settings :=
        evaluateServiceResponse_same heval fun service _ => service.not_touches_settings
      have hpending : t.srv.rcrrp = false := hrcrrp.trans hp.1
      refine .evaluate hp ⟨?_, rfl⟩ _ rfl hreceives ?_
      · rw [if_neg hfinal]
        exact hpending
      · exact (hT.getSendBuf _).getElem? (hT.peeked p.tp hlen)

/-- A poll that may answer the request in progress. -/
theorem PollLoop.send_cases (hT : T.Honours L) (hp : p.sys.InProgress true) :
    LoopCase T L p (p.send T env).2 (p.send T env).1 := by
  rw [PollLoop.send_eq hp.1]
  exact .answer hp ⟨hp.1, rfl⟩ rfl ⟨_, hT.send _ _, rfl⟩

variable (B env) in
/-- Doing the timers and `UDSTpPoll` first changes nothing of it. -/
theorem LoopCase.of_timers (hT : T.Honours L)
    (h : LoopCase T L ⟨p.sys.pollTimers B env, T.poll p.tp⟩ acts p') {b : Bool}
    (hp : p.sys.InProgress b) : LoopCase T L p acts p' := by
  have hb {b' : Bool} (h : (p.sys.pollTimers B env).InProgress b') : p.sys.InProgress b' := by
    obtain rfl : b = b' := hp.pollTimers.2.symm.trans h.2
    exact hp
  have hpoll : L.Receives p.tp (T.poll p.tp) := hT.poll p.tp
  cases h with
  | idle b' hs hp' hacts hsent htp =>
    exact .idle b' (hb hs) hp' hacts (fun h => (hsent h).trans (pollTimers_sendBuf env p.sys))
      (hpoll.trans htp)
  | answer hs hp' hacts htp =>
    obtain ⟨σ, hσ, htp⟩ := htp
    rw [pollTimers_sendBuf] at hacts
    exact .answer (hb hs) hp' hacts ⟨σ, hpoll.trans hσ, htp⟩
  | evaluate hs hp' m hacts htp hm =>
    exact .evaluate (hb hs) hp' m hacts (hpoll.trans htp) (hpoll.2 ▸ hm)

theorem LoopStep.cases (hT : T.Honours L) {b : Bool} (hp : p.sys.InProgress b)
    (h : LoopStep T B L p acts p') : LoopCase T L p acts p' := by
  cases h with
  | transport tp h => exact .idle b hp hp rfl (fun _ => rfl) h
  | poll env env' h =>
    refine LoopCase.of_timers B env hT ?_ hp
    have hs : (p.sys.pollTimers B env).InProgress b := hp.pollTimers
    unfold PollLoop.udsServerPoll at h
    dsimp only at h
    rw [pollPending_of_not_rcrrp hs.1, hs.1, hs.2,
      if_neg Bool.false_ne_true] at h
    cases b with
    | true =>
      rw [if_pos rfl] at h
      dsimp only at h
      split_ifs at h with htimer
      · obtain ⟨rfl, rfl⟩ := Prod.mk.inj (Except.ok.inj h)
        exact PollLoop.send_cases hT hs
      · obtain ⟨rfl, rfl⟩ := Prod.mk.inj (Except.ok.inj h)
        exact .idle true hs hs rfl (fun _ => rfl) ⟨List.prefix_refl _, rfl⟩
    | false =>
      rw [if_neg (by simp)] at h
      split_ifs at h with hdeaf
      · obtain ⟨rfl, rfl⟩ := Prod.mk.inj (Except.ok.inj h)
        exact .idle false hs hs rfl (by simp) ⟨List.prefix_refl _, rfl⟩
      · exact PollLoop.receive_cases hT hs h

/-! ### Sequential processing -/

/-- What is done with a request, given with its response: it is evaluated, the response is sent, and
it is acknowledged. -/
def processing (x : Bytes × Bytes) : List PollAct := [.evaluate x.1 x.2, .send x.2, .ackRecv]

/-- The requests in `done` have been processed, one after the other; then the one in `last` has been
evaluated. They are the first messages that were received. -/
structure Processed (L : Ledger τ) (acts : List PollAct) (p : PollLoop τ)
    (done : List (Bytes × Bytes)) (last : Option (Bytes × Bytes)) : Prop where
  acts_eq : acts = done.flatMap processing ++ last.toList.map fun x => .evaluate x.1 x.2
  received : (done ++ last.toList).map Prod.fst <+: L.received p.tp
  acknowledged : L.acknowledged p.tp = done.length
  inProgress : p.sys.InProgress last.isSome
  sendBuf : ∀ x ∈ last, x.2 = p.sys.srv.r.sendBuf

variable {done : List (Bytes × Bytes)} {last : Option (Bytes × Bytes)}

/-- **What a step does keeps the order of processing.** -/
theorem Processed.step (hT : T.Honours L) (hp : Processed L acts p done last)
    {acts' : List PollAct} (h : LoopStep T B L p acts' p') :
    ∃ done' last', Processed L (acts ++ acts') p' done' last' := by
  cases h.cases hT hp.inProgress with
  | idle b hb hp' hacts hsent htp =>
    obtain rfl : last.isSome = b := hp.inProgress.2.symm.trans hb.2
    refine ⟨done, last, ?_, hp.received.trans htp.1, htp.2.trans hp.acknowledged, hp', ?_⟩
    · rw [hacts, List.append_nil]
      exact hp.acts_eq
    · intro x hx
      rw [hsent (Option.isSome_of_mem hx)]
      exact hp.sendBuf x hx
  | answer hb hp' hacts htp =>
    obtain ⟨σ, hσ, htp⟩ := htp
    have hsome : last.isSome = true := hp.inProgress.2.symm.trans hb.2
    obtain ⟨x, rfl⟩ := Option.isSome_iff_exists.1 hsome
    have hlt : L.acknowledged σ < (L.received σ).length := by
      have hlength := hp.received.length_le.trans hσ.1.length_le
      rw [hσ.2, hp.acknowledged]
      exact Nat.lt_of_succ_le (by simpa using hlength)
    refine ⟨done ++ [x], none, ?_, ?_, ?_, hp', by simp⟩
    · rw [hp.acts_eq, hacts, ← hp.sendBuf x rfl]
      simp [processing]
    · rw [htp]
      simpa using hp.received.trans (hσ.1.trans (hT.ackRecv σ))
    · rw [htp, hT.acknowledged σ hlt, hσ.2, hp.acknowledged]
      simp
  | evaluate hb hp' m hacts htp hm =>
    have hnone : last.isSome = false := hp.inProgress.2.symm.trans hb.2
    obtain rfl : last = none := Option.not_isSome_iff_eq_none.1 (by simp [hnone])
    refine ⟨done, some (m, p'.sys.srv.r.sendBuf), ?_, ?_, htp.2.trans hp.acknowledged, hp', ?_⟩
    · rw [hp.acts_eq, hacts]
      simp
    · have hprefix : done.map Prod.fst <+: L.received p'.tp := by
        simpa using hp.received.trans htp.1
      obtain ⟨rest, hrest⟩ := hprefix
      rw [← hrest, List.getElem?_append_right (by simp [hp.acknowledged]), hp.acknowledged,
        List.length_map, Nat.sub_self] at hm
      obtain ⟨rest', rfl⟩ : ∃ rest', rest = m :: rest' := by
        cases rest with
        | nil => cases hm
        | cons m' rest' => exact ⟨rest', by rw [Option.some.inj hm]⟩
      exact ⟨rest', by simpa using hrest⟩
    · intro x hx
      rw [← Option.some.inj hx]

/-- **Requests are processed one after the other.** -/
theorem LoopRun.processed (hT : T.Honours L) (h : LoopRun T B L tr p) :
    ∃ done last, Processed L tr.flatten p done last := by
  refine Runs.Run.invariant (P := fun tr p => ∃ done last, Processed L tr.flatten p done last)
    ?_ ?_ h
  · rintro p ⟨⟨env, fs, hs⟩, hacknowledged⟩
    exact ⟨[], none, rfl, List.nil_prefix, hacknowledged, hs ▸ ⟨rfl, rfl⟩, by simp⟩
  · rintro tr p acts p' - ⟨done, last, hp⟩ hstep
    obtain ⟨done', last', hp'⟩ := hp.step hT hstep
    exact ⟨done', last', by simpa using hp'⟩

/-- **The polling loop processes requests sequentially**, whatever the transport is. The requests
evaluated so far are the first messages that were received, in order. Between two evaluations, the
response of the first is sent once and the request is acknowledged once; only the last request may
still await this. No request is evaluated a second time. -/
theorem poll_loop_is_sequential (hT : T.Honours L) (h : LoopRun T B L tr p) :
    p.sys.srv.rcrrp = false ∧ .reevaluate ∉ tr.flatten ∧
      ∃ (done : List (Bytes × Bytes)) (last : Option (Bytes × Bytes)),
        tr.flatten = done.flatMap (fun x => [.evaluate x.1 x.2, .send x.2, .ackRecv]) ++
          last.toList.map (fun x => .evaluate x.1 x.2) ∧
        (done ++ last.toList).map Prod.fst <+: L.received p.tp ∧
        L.acknowledged p.tp = done.length ∧
        p.sys.srv.requestInProgress = last.isSome ∧
        ∀ x ∈ last, x.2 = p.sys.srv.r.sendBuf := by
  obtain ⟨done, last, hp⟩ := h.processed hT
  refine ⟨hp.inProgress.1, ?_, done, last, hp.acts_eq, hp.received, hp.acknowledged,
    hp.inProgress.2, hp.sendBuf⟩
  rw [hp.acts_eq]
  simp [processing]

/-- `DoIPTp` after start-up. -/
def freshTp : RecordedTp := ⟨.initial, []⟩

/-- Polls at given times, with what they do. -/
def PollLoop.polls (T : UDSTpHandle τ) (B : Build) (p : PollLoop τ) :
    List Env → Option (List (List PollAct) × PollLoop τ)
  | [] => some ([], p)
  | env :: envs =>
    match p.udsServerPoll T B env env with
    | .error _ => none
    | .ok (p', acts) => (p'.polls T B envs).map fun r => (acts :: r.1, r.2)

theorem LoopRun.polls {envs : List Env} {r : List (List PollAct) × PollLoop τ}
    (h : LoopRun T B L tr p) (hr : p.polls T B envs = some r) :
    LoopRun T B L (tr ++ r.1) r.2 := by
  induction envs generalizing p tr r with
  | nil =>
    obtain rfl := Option.some.inj hr
    simpa using h
  | cons env envs ih =>
    unfold PollLoop.polls at hr
    split at hr
    · cases hr
    · next p' acts hpoll =>
      obtain ⟨r', hr', rfl⟩ := Option.map_eq_some_iff.1 hr
      simpa using ih (h.snoc (.poll env env hpoll)) hr'

/-- A request that is received, evaluated and answered by way of `DoIPTp`. -/
theorem poll_loop_is_sequential_doIPTp :
    ∃ (tr : List (List PollAct)) (p : PollLoop RecordedTp),
      tr.flatten = [.evaluate [0x3E, 0x00] [0x7E, 0x00], .send [0x7E, 0x00], .ackRecv] ∧
        p.sys.srv.rcrrp = false := by
  let B : Build := ⟨65535, .test⟩
  let σ := freshTp.deliver [0x3E, 0x00] (by decide)
  have hstart : LoopRun (doIPTpHandle B) B recordedLedger []
      ⟨udsServerInit (.fair 0) fun _ => none, freshTp⟩ := .start ⟨⟨_, _, rfl⟩, rfl⟩
  have hreceived := hstart.snoc (.transport σ (receives_deliver _ rfl))
  obtain ⟨r, hr, hacts⟩ := Option.map_eq_some_iff.1 (show
    (PollLoop.polls (doIPTpHandle B) B ⟨udsServerInit (.fair 0) fun _ => none, σ⟩
      [.fair 0, .fair 1000]).map Prod.fst =
        some [[.evaluate [0x3E, 0x00] [0x7E, 0x00]], [.send [0x7E, 0x00], .ackRecv]]
    by decide +kernel)
  have hrun := LoopRun.polls hreceived hr
  have hprocessed := (poll_loop_is_sequential (doIPTp_honours B) hrun).1
  exact ⟨[] ++ [[]] ++ r.1, r.2, by simp [hacts], hprocessed⟩

end EcuUpgrade
