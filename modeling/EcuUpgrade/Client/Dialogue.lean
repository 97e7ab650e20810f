import EcuUpgrade.Client.Requests
import EcuUpgrade.Server.Responses

/-!
# Client and server

The client and the upgrade server, each polled whenever its application likes, exchange messages
over a transport that delays them and keeps their order. A response carries nothing that says to
which request it belongs but the identifier of a service. It belongs to the right one nevertheless,
as long as the client gives no request up: the client has one request open at a time, and the server
answers each once.

## Main definitions

* `Dialogue`, `DialogueStep`, `DialogueRun`: client, server and the messages between them.
* `served`, `responded`: the requests with their responses, as the server and the client see them.
* `Aligned`: how far client and server have got.

## Main results

* `answers_belong_to_their_requests`.
-/

namespace EcuUpgrade

open Runs Requester Memory ResponseCode

/-! ### The dialogue -/

/-- A client and a server, with all messages sent by either, and how many of them the other side has
acknowledged. -/
structure Dialogue where
  client : TimedClient
  server : Sys
  toServer : List Bytes
  acknowledged : ℕ
  toClient : List Bytes
  read : ℕ

/-- What a side of the dialogue does. -/
inductive DialogueEvent
  | client (acts : List ClientAct)
  | server (p : Poll)

/-- The message that is sent, if the transport accepts it. -/
def ClientAct.message? : ClientAct → Option Bytes
  | .send a ret => if 0 < ret ∧ ret = a.size.toNat then some a.bytes else none
  | _ => none

def ClientAct.isAck : ClientAct → Bool
  | .ackRecv => true
  | _ => false

/-- The response that is sent, if there is one. -/
def PollEvent.message? : PollEvent → Option Bytes
  | .send response => if response = [] then none else some response
  | _ => none

def PollEvent.isAck : PollEvent → Bool
  | .ackRecv => true
  | _ => false

variable (B : Build) (d : Dialogue)

/-- The dialogue after the client has done something. -/
def Dialogue.afterClient (client : TimedClient) (acts : List ClientAct) : Dialogue :=
  { d with
    client := client
    toServer := d.toServer ++ acts.filterMap ClientAct.message?
    read := d.read + acts.countP ClientAct.isAck }

/-- The dialogue after the server has done something. -/
def Dialogue.afterServer (server : Sys) (events : List PollEvent) : Dialogue :=
  { d with
    server := server
    toClient := d.toClient ++ events.filterMap PollEvent.message?
    acknowledged := d.acknowledged + events.countP PollEvent.isAck }

/-- At what the client peeks is the first response that it has not acknowledged, or nothing. -/
def Dialogue.Responds (env : ClientEnv) : Prop :=
  env.peekTaType = .physical ∧ (0 < env.peekLen →
    d.toClient[d.read]? = some (cells env.peekBuf 0 env.peekLen.toNat))

/-- At what the server peeks is the first request that it has not acknowledged, or nothing. -/
def Dialogue.Requests (q : Request) : Prop :=
  q.len ≠ 0 → d.toServer[d.acknowledged]? = some (bytesAt q.buf 0 q.len)

/-- The application of the client calls one of its functions, or the server is polled. -/
inductive DialogueStep : DialogueEvent → Dialogue → Prop
  | request (env : ClientEnv) (e : Encoder) (htime : d.client.time ≤ env.millis)
      (h : d.Responds env) :
      DialogueStep (.client (d.client.client.request env e).2.2)
        (d.afterClient ⟨(d.client.client.request env e).2.1, env.millis⟩
          (d.client.client.request env e).2.2)
  | poll (env : ClientEnv) (htime : d.client.time ≤ env.millis) (h : d.Responds env) :
      DialogueStep (.client (d.client.client.pollLowLevel env).2)
        (d.afterClient ⟨(d.client.client.pollLowLevel env).1, env.millis⟩
          (d.client.client.pollLowLevel env).2)
  | setOptions (options defaultOptions : UInt8) :
      DialogueStep (.client [])
        (d.afterClient ⟨{ d.client.client with
          options := options
          defaultOptions := defaultOptions }, d.client.time⟩ [])
  | server (p : Poll) (t : Sys) (h : PollStep B d.server p t) (hrequest : d.Requests p.request) :
      DialogueStep (.server p) (d.afterServer t p.events)

/-- Client and server after start-up. -/
def DialogueStart (d : Dialogue) : Prop :=
  ClientStart d.client ∧ ServerStart d.server ∧ d.toServer = [] ∧ d.acknowledged = 0 ∧
    d.toClient = [] ∧ d.read = 0

/-- A run of client and server, in any order of their steps. -/
abbrev DialogueRun : List DialogueEvent → Dialogue → Prop :=
  Run DialogueStart fun d => DialogueStep B d

/-- The calls of the client. -/
def DialogueEvent.acts? : DialogueEvent → Option (List ClientAct)
  | .client acts => some acts
  | _ => none

/-- The requests evaluated by a poll, with their responses. -/
def DialogueEvent.served : DialogueEvent → List (Bytes × Bytes)
  | .server p => p.exchanges.map fun x => (bytesAt x.req.buf 0 x.req.len, x.sent)
  | _ => []

/-- What happened to the requests of the client. -/
def clientEvents (tr : List DialogueEvent) : List (Event SentRequest ReceivedResponse) :=
  events (tr.filterMap DialogueEvent.acts?)

/-- The requests that the server has evaluated, with their responses. -/
def served (tr : List DialogueEvent) : List (Bytes × Bytes) := tr.flatMap DialogueEvent.served

/-- The request that an event concludes with a response, and the response. -/
def response? : Event SentRequest ReceivedResponse → Option (Bytes × Bytes)
  | .answer a b | .refuse a b => some (a.bytes, b.bytes)
  | _ => none

/-- The requests that the client has got a response to, with their responses. -/
def responded (tr : List DialogueEvent) : List (Bytes × Bytes) :=
  (clientEvents tr).filterMap response?

/-- The client gives its request up: it is no longer interested in the response, or it has waited
too long. -/
def GivesUp : Event SentRequest ReceivedResponse → Prop
  | .drop _ | .expire _ _ => True
  | _ => False

instance (e : Event SentRequest ReceivedResponse) : Decidable (GivesUp e) :=
  match e with
  | .drop _ | .expire _ _ => .isTrue trivial
  | .accept _ | .await _ _ _ | .extend _ _ _ _ | .answer _ _ | .refuse _ _ | .silent => .isFalse id

/-! ### Responses of the server -/

/-- A response that begins like a negative one is one, and it does not ask for more time. -/
def Unhurried (response : Bytes) : Prop :=
  response.length ≤ 65535 ∧ (response.head? = some 0x7F →
    ∃ sid code, response = [0x7F, sid, code] ∧ code ≠ 0x78)

variable {B d} {s t : Sys} {x : Exchange}

theorem ServerStep.unhurried (hs : Settings s) (hmtu : B.udsTpMtu = 65535)
    (h : ServerStep B s x t) : Unhurried x.sent := by
  obtain ⟨form, hform⟩ := h.hasForm hs hmtu
  have hfinal : x.code ≠ kRequestCorrectlyReceivedResponsePending :=
    processRequest_final hs.rcrrp h.1
  cases form with
  | positive =>
    obtain ⟨hc, hne, hlen, hhead⟩ := hform
    refine ⟨hlen, fun hnegative => ?_⟩
    have hsid : x.req.buf 0 = 0x3F := by
      have hsum := Option.some.inj (hhead.symm.trans hnegative)
      exact (UInt8.add_left_inj 0x40).1 hsum
    rcases h.cases with ⟨-, heq⟩ | ⟨service, -, hsome, -⟩
    · cases hc.symm.trans (Prod.mk.inj heq).1
    · have hservice : service.sid = 0x3F := (getServiceForSID_eq_some_iff.1 hsome).symm.trans hsid
      cases service <;> cases hservice
  | suppressed =>
    obtain ⟨-, hnil, -⟩ := hform
    rw [hnil]
    exact ⟨by simp, by simp⟩
  | negative =>
    obtain ⟨-, hsent⟩ := hform
    rw [hsent]
    refine ⟨by simp, fun _ => ⟨_, _, rfl, ?_⟩⟩
    cases hcode : x.code <;> simp_all [ResponseCode.toByte]

/-! ### How far client and server have got -/

/-- The request that was sent and has no response yet. -/
def UDSClientT.unanswered (c : UDSClientT) : List Bytes :=
  match c.state with
  | .idle | .sending => []
  | _ => [c.sent.bytes]

theorem length_unanswered_le (c : UDSClientT) : c.unanswered.length ≤ 1 := by
  unfold UDSClientT.unanswered
  split <;> simp

/-- The client has got responses to the requests in `R`, and these are the first that the server has
served. It has served those in `done`, and then it has evaluated the one in `last`, but it has not
sent the response yet. -/
structure Aligned (d : Dialogue) (R done : List (Bytes × Bytes)) (last : Option (Bytes × Bytes)) :
    Prop where
  settings : Settings d.server
  toServer : d.toServer = R.map Prod.fst ++ d.client.client.unanswered
  received : (done ++ last.toList).map Prod.fst <+: d.toServer
  responded : R <+: done
  unhurried : ∀ x ∈ done ++ last.toList, Unhurried x.2
  nonempty : ∀ r ∈ R, r.2 ≠ []
  toClient : d.toClient = (done.map Prod.snd).filter (· ≠ [])
  acknowledged : d.acknowledged = done.length
  inProgress : d.server.srv.requestInProgress = last.isSome
  sendBuf : ∀ x ∈ last, x.2 = d.server.srv.r.sendBuf
  read : d.read = R.length
  processing : d.client.client.state = .processResponse →
    d.toClient[d.read]? = some d.client.client.received.bytes

variable {R done : List (Bytes × Bytes)} {last : Option (Bytes × Bytes)}

/-- **The next response** is the one to the request that has none yet. -/
theorem Aligned.next (h : Aligned d R done last) {m : Bytes} (hm : d.toClient[d.read]? = some m) :
    ∃ q, d.client.client.unanswered = [q] ∧ done = R ++ [(q, m)] ∧ m ≠ [] := by
  obtain ⟨rest, rfl⟩ := h.responded
  have hread : ((rest.map Prod.snd).filter (· ≠ []))[0]? = some m := by
    have hkept : (R.map Prod.snd).filter (· ≠ []) = R.map Prod.snd :=
      List.filter_eq_self.2 fun r hr => by
        obtain ⟨x, hx, rfl⟩ := List.mem_map.1 hr
        simpa using h.nonempty x hx
    rw [h.toClient, List.map_append, List.filter_append, hkept, h.read,
      List.getElem?_append_right (by simp)] at hm
    simpa using hm
  have hopen : (rest ++ last.toList).map Prod.fst <+: d.client.client.unanswered := by
    have hreceived := h.received
    rw [h.toServer, List.append_assoc, List.map_append] at hreceived
    exact (List.prefix_append_right_inj _).1 hreceived
  have hle := hopen.length_le.trans (length_unanswered_le _)
  match rest, hread, hopen, hle with
  | [(q, m')], hread, hopen, _ =>
    have hm' : m' = m ∧ m' ≠ [] := by
      by_cases hnil : m' = []
      · simp [hnil] at hread
      · simpa [hnil] using hread
    obtain ⟨rfl, hne⟩ := hm'
    obtain ⟨rest, hrest⟩ := hopen
    have hlength := length_unanswered_le d.client.client
    rw [← hrest] at hlength ⊢
    obtain ⟨hlast, rfl⟩ : last.toList = [] ∧ rest = [] := by simpa using hlength
    exact ⟨q, by simp [hlast], rfl, hne⟩
  | x :: y :: rest, _, _, hle => simp at hle

/-! ### Steps of the server -/

/-- A message that was sent stays the one at its position. -/
theorem prefix_snoc {α : Type*} {xs ys : List α} {x : α} (h : xs <+: ys)
    (hx : ys[xs.length]? = some x) : xs ++ [x] <+: ys := by
  obtain ⟨rest, rfl⟩ := h
  rw [List.getElem?_append_right le_rfl, Nat.sub_self] at hx
  cases rest with
  | nil => cases hx
  | cons y rest =>
    obtain rfl := Option.some.inj hx
    exact ⟨rest, by simp⟩

/-- The server sends nothing and acknowledges nothing. -/
theorem Aligned.quiet (h : Aligned d R done last) (hsettings : Settings t)
    (hprogress : t.srv.requestInProgress = d.server.srv.requestInProgress)
    (hbuf : d.server.srv.requestInProgress = true → t.srv.r.sendBuf = d.server.srv.r.sendBuf)
    {evs : List PollEvent} (hmessage : evs.filterMap PollEvent.message? = [])
    (hack : evs.countP PollEvent.isAck = 0) : Aligned (d.afterServer t evs) R done last := by
  unfold Dialogue.afterServer
  rw [hmessage, hack, List.append_nil, Nat.add_zero]
  refine ⟨hsettings, h.toServer, h.received, h.responded, h.unhurried, h.nonempty, h.toClient,
    h.acknowledged, hprogress.trans h.inProgress, fun x hx => ?_, h.read, h.processing⟩
  rw [hbuf (h.inProgress.trans (Option.isSome_of_mem hx))]
  exact h.sendBuf x hx

/-- The server sends the response to the request that it has evaluated, and acknowledges the
request. -/
theorem Aligned.respond {y : Bytes × Bytes} (h : Aligned d R done (some y)) (hsettings : Settings t)
    (hprogress : t.srv.requestInProgress = false) :
    Aligned (d.afterServer t [.send d.server.srv.r.sendBuf, .ackRecv]) R (done ++ [y]) none := by
  have hsent : y.2 = d.server.srv.r.sendBuf := h.sendBuf y rfl
  refine ⟨hsettings, h.toServer, ?_, ?_, ?_, h.nonempty, ?_, ?_, hprogress, by simp, h.read,
    fun hprocess => ?_⟩
  · change (done ++ [y] ++ []).map Prod.fst <+: d.toServer
    simpa using h.received
  · exact h.responded.trans (List.prefix_append _ _)
  · simpa using h.unhurried
  · change d.toClient ++ _ = _
    rw [h.toClient, List.map_append, List.filter_append, ← hsent]
    by_cases hnil : y.2 = [] <;> simp [PollEvent.message?, List.filterMap_cons, hnil]
  · change d.acknowledged + _ = _
    rw [h.acknowledged, List.length_append]
    rfl
  · obtain ⟨hlt, -⟩ := List.getElem?_eq_some_iff.1 (h.processing hprocess)
    change (d.toClient ++ _)[d.read]? = _
    rw [List.getElem?_append_left hlt]
    exact h.processing hprocess

/-- The server evaluates the request that it has not acknowledged yet. -/
theorem Aligned.evaluate (h : Aligned d R done none) (hsettings : Settings t)
    (hprogress : t.srv.requestInProgress = true) (hbuf : t.srv.r.sendBuf = x.sent)
    (hunhurried : Unhurried x.sent)
    (hmessage : d.toServer[d.acknowledged]? = some (bytesAt x.req.buf 0 x.req.len)) :
    Aligned (d.afterServer t [.peek, .evaluate x]) R done
      (some (bytesAt x.req.buf 0 x.req.len, x.sent)) := by
  refine ⟨hsettings, h.toServer, ?_, h.responded, ?_, h.nonempty, ?_, h.acknowledged, hprogress,
    ?_, h.read, fun hprocess => ?_⟩
  · have hdone : done.map Prod.fst <+: d.toServer := by simpa using h.received
    rw [List.map_append]
    refine prefix_snoc hdone ?_
    rw [List.length_map, ← h.acknowledged]
    exact hmessage
  · intro y hy
    rcases List.mem_append.1 hy with hy | hy
    · exact h.unhurried y (List.mem_append_left _ hy)
    · obtain rfl : y = _ := by simpa using hy
      exact hunhurried
  · exact (List.append_nil _).trans h.toClient
  · intro y hy
    obtain rfl := Option.some.inj hy
    exact hbuf.symm
  · change (d.toClient ++ [])[d.read]? = _
    rw [List.append_nil]
    exact h.processing hprocess

/-- **What the server does** keeps the dialogue aligned. -/
theorem Aligned.server (h : Aligned d R done last) (hmtu : B.udsTpMtu = 65535) {p : Poll}
    (hstep : PollStep B d.server p t) (hrequest : d.Requests p.request) :
    ∃ done' last', Aligned (d.afterServer t p.events) R done' last' ∧
      done' ++ last'.toList = done ++ last.toList ++ (DialogueEvent.server p).served := by
  have hsettings : Settings t := h.settings.pollStep hstep
  have hserved : (DialogueEvent.server p).served = (p.events.filterMap PollEvent.exchange).map
      fun x => (bytesAt x.req.buf 0 x.req.len, x.sent) := rfl
  rw [hserved]
  cases hstep.cases h.settings with
  | wait hprogress ht hevents =>
    rw [hevents]
    refine ⟨done, last, h.quiet hsettings ?_ (fun _ => ?_) rfl rfl, by simp⟩
    · rw [ht, pollTimers_requestInProgress]
    · rw [ht, pollTimers_sendBuf]
  | answer hprogress ht hevents =>
    obtain ⟨timer, ht⟩ := ht
    obtain ⟨y, rfl⟩ := Option.isSome_iff_exists.1 (h.inProgress.symm.trans hprogress)
    rw [hevents]
    exact ⟨done ++ [y], none, h.respond hsettings (by rw [ht]; rfl),
      by simp [PollEvent.exchange]⟩
  | deaf hprogress hdeaf ht hevents =>
    rw [hevents]
    refine ⟨done, last, h.quiet hsettings ?_ (fun hp => ?_) rfl rfl, by simp⟩
    · rw [ht, pollTimers_requestInProgress]
    · simp [hprogress] at hp
  | idle hprogress hready hlen ht hevents =>
    rw [hevents]
    refine ⟨done, last, h.quiet hsettings ?_ (fun hp => ?_) rfl rfl, by simp [PollEvent.exchange]⟩
    · rw [ht]
      exact pollTimers_requestInProgress
    · simp [hprogress] at hp
  | evaluate hprogress hready hlen x hreq u hstep' ht hevents =>
    obtain rfl : last = none := by
      rw [← Option.not_isSome_iff_eq_none, ← h.inProgress, hprogress]
      simp
    have hmessage : d.toServer[d.acknowledged]? = some (bytesAt x.req.buf 0 x.req.len) := by
      rw [hreq]
      exact hrequest hlen
    have hunhurried := hstep'.unhurried h.settings.pollTimers hmtu
    rw [hevents]
    refine ⟨done, _, h.evaluate hsettings (by rw [ht]; rfl) (by rw [ht]; exact hstep'.2.symm)
      hunhurried hmessage, ?_⟩
    rw [Option.toList_none, List.append_nil]
    rfl

/-! ### Steps of the client -/

variable {n : TimedClient} {c : UDSClientT} {env : ClientEnv} {acts : List ClientAct}

/-- The client does something that has to do neither with a response nor with its
acknowledgement. -/
theorem Aligned.client (h : Aligned d R done last) (hack : acts.countP ClientAct.isAck = 0)
    (hmessage : d.client.client.unanswered ++ acts.filterMap ClientAct.message? =
      n.client.unanswered)
    (hprocess : n.client.state = .processResponse →
      d.toClient[d.read]? = some n.client.received.bytes) :
    Aligned (d.afterClient n acts) R done last where
  settings := h.settings
  toServer := by
    change d.toServer ++ _ = _
    rw [h.toServer, List.append_assoc, hmessage]
    rfl
  received := h.received.trans (List.prefix_append _ _)
  responded := h.responded
  unhurried := h.unhurried
  nonempty := h.nonempty
  toClient := h.toClient
  acknowledged := h.acknowledged
  inProgress := h.inProgress
  sendBuf := h.sendBuf
  read := by
    change d.read + _ = _
    rw [hack, h.read, Nat.add_zero]
  processing := by
    change _ → d.toClient[d.read + _]? = _
    rw [hack, Nat.add_zero]
    exact hprocess

/-- The client acknowledges the response to its request, which is concluded. -/
theorem Aligned.conclude (h : Aligned d R done last)
    (hstate : d.client.client.state = .processResponse) (hidle : n.client.state = .idle)
    (hack : acts.countP ClientAct.isAck = 1) (hmessage : acts.filterMap ClientAct.message? = []) :
    Aligned (d.afterClient n acts)
      (R ++ [(d.client.client.sent.bytes, d.client.client.received.bytes)]) done last := by
  have hunanswered : d.client.client.unanswered = [d.client.client.sent.bytes] := by
    unfold UDSClientT.unanswered
    rw [hstate]
  obtain ⟨q, hq, hdone, hne⟩ := h.next (h.processing hstate)
  obtain rfl : d.client.client.sent.bytes = q := by simpa [hunanswered] using hq
  refine ⟨h.settings, ?_, h.received.trans (List.prefix_append _ _), hdone ▸ List.prefix_refl _,
    h.unhurried, ?_, h.toClient, h.acknowledged, h.inProgress, h.sendBuf, ?_, ?_⟩
  · change d.toServer ++ acts.filterMap ClientAct.message? = _
    have hclosed : n.client.unanswered = [] := by
      unfold UDSClientT.unanswered
      rw [hidle]
    change _ = _ ++ n.client.unanswered
    rw [hmessage, h.toServer, hunanswered, hclosed]
    simp
  · intro r hr
    rcases List.mem_append.1 hr with hr | hr
    · exact h.nonempty r hr
    · obtain rfl := List.mem_singleton.1 hr
      exact hne
  · change d.read + _ = _
    rw [hack, h.read, List.length_append]
    rfl
  · change n.client.state = _ → _
    rw [hidle]
    simp

/-- The response that the client looks at does not ask for more time. -/
theorem Aligned.judge_ne_pending (h : Aligned d R done last)
    (hstate : d.client.client.state = .processResponse) :
    d.client.client.sent.judge d.client.client.received ≠ .pending := by
  obtain ⟨q, -, hdone, -⟩ := h.next (h.processing hstate)
  have hunhurried : Unhurried d.client.client.received.bytes :=
    h.unhurried _
      (List.mem_append_left _ (hdone ▸ List.mem_append_right _ (List.mem_singleton.2 rfl)))
  intro hjudge
  unfold SentRequest.judge at hjudge
  split_ifs at hjudge with hnegates hpending
  obtain ⟨hsize, hnegative, -⟩ := hnegates
  generalize d.client.client.received = b at *
  have hpos : 0 < b.size.toNat := Nat.lt_of_lt_of_le (by decide) (UInt16.le_iff_toNat_le.1 hsize)
  have hhead : b.bytes.head? = some 0x7F := by
    rw [List.head?_eq_getElem?, ← hnegative]
    simp [ReceivedResponse.bytes, cells, hpos]
  obtain ⟨sid, code, hbytes, hcode⟩ := hunhurried.2 hhead
  have hlen : b.size.toNat = 3 := by
    simpa [ReceivedResponse.bytes] using congrArg List.length hbytes
  have hthird : b.bytes[2]? = some (b.buf 2) := by
    simp [ReceivedResponse.bytes, cells, hlen]
  rw [hbytes] at hthird
  exact hcode ((Option.some.inj hthird).trans hpending)

/-- A poll to which nothing happens to the request. -/
theorem Aligned.silent (h : Aligned d R done last) (hresponds : d.Responds env)
    (hsilent : SilentPoll env d.client.client c acts) (hsent : c.sent = d.client.client.sent) :
    Aligned (d.afterClient ⟨c, env.millis⟩ acts) R done last := by
  cases hsilent with
  | wait hstate hne hacts =>
    subst hacts
    refine h.client rfl ?_ fun hprocess => absurd (hstate.symm.trans hprocess) hne
    simp [UDSClientT.unanswered, hstate, hsent]
  | unsent hstate hstate' ret hret hacts =>
    subst hacts
    refine h.client rfl ?_ (by simp [hstate'])
    have hnone : ClientAct.message? (.send d.client.client.sent ret) = none := if_neg hret
    simp [UDSClientT.unanswered, hstate, hstate', hnone]
  | sent hstate hstate' hsize hacts =>
    subst hacts
    refine h.client rfl ?_ (by simp [hstate'])
    have hsome : ClientAct.message? (.send d.client.client.sent d.client.client.sendSize.toNat) =
        some d.client.client.sent.bytes := if_pos ⟨by exact_mod_cast hsize, rfl⟩
    simp [UDSClientT.unanswered, hstate, hstate', hsent, hsome]
  | skip hstate hstate' hfunctional hacts =>
    cases hresponds.1.symm.trans hfunctional
  | peeked hstate hstate' hlen hreceived hacts =>
    subst hacts
    have hm := hresponds.2 hlen
    obtain ⟨q, -, hdone, -⟩ := h.next hm
    have hle : (cells env.peekBuf 0 env.peekLen.toNat).length ≤ 65535 :=
      (h.unhurried _ (List.mem_append_left _ (hdone ▸ List.mem_append_right _
        (List.mem_singleton.2 rfl)))).1
    have hbytes : c.received.bytes = cells env.peekBuf 0 env.peekLen.toNat := by
      rw [hreceived, ReceivedResponse.bytes, toNat_ofNat_of_le (by simpa using hle)]
    refine h.client rfl ?_ fun _ => hbytes ▸ hm
    simp [UDSClientT.unanswered, hstate, hstate', hsent]

/-- **What a poll of the client does** keeps the dialogue aligned, unless it gives its request
up. -/
theorem Aligned.poll (h : Aligned d R done last) (hresponds : d.Responds env)
    (hkept : ∀ act ∈ (d.client.client.pollLowLevel env).2, ¬GivesUp act.toEvent) :
    Aligned (d.afterClient ⟨(d.client.client.pollLowLevel env).1, env.millis⟩
        (d.client.client.pollLowLevel env).2)
      (R ++ ((d.client.client.pollLowLevel env).2.map ClientAct.toEvent).filterMap response?)
      done last := by
  have hsent := pollLowLevel_sent env d.client.client
  cases pollLowLevel_outcome env d.client.client with
  | silent hsilent htimer htimings =>
    have hnothing : ((d.client.client.pollLowLevel env).2.map ClientAct.toEvent).filterMap
        response? = [] := by
      refine List.filterMap_eq_nil_iff.2 fun e he => ?_
      obtain ⟨act, hact, rfl⟩ := List.mem_map.1 he
      rw [hsilent.toEvent_eq act hact]
      rfl
    rw [hnothing, List.append_nil]
    exact h.silent hresponds hsilent hsent
  | await hstate hstate' hacts htimer htimings =>
    have hclient : Aligned (d.afterClient ⟨(d.client.client.pollLowLevel env).1, env.millis⟩
        (d.client.client.pollLowLevel env).2) R done last := by
      refine h.client (by rw [hacts]; rfl) ?_ (by simp [hstate'])
      simp [UDSClientT.unanswered, hstate, hstate', hsent, hacts, ClientAct.message?]
    simpa [hacts, List.filterMap_cons, ClientAct.toEvent, response?] using hclient
  | extend hstate hstate' hjudge hacts htimer htimings =>
    exact absurd hjudge (h.judge_ne_pending hstate)
  | answer hstate hstate' hjudge hacts herr htimings =>
    rw [hacts]
    exact h.conclude hstate hstate' rfl rfl
  | refuse hstate hstate' hjudge hacts herr htimings =>
    rw [hacts]
    exact h.conclude hstate hstate' rfl rfl
  | expire hstate hstate' hafter hacts herr htimings =>
    exact (hkept (.event (.expire d.client.client.sent env.millis))
      (hacts ▸ List.mem_singleton.2 rfl) trivial).elim
  | drop hstate hstate' hacts htimings herr =>
    exact (hkept (.event (.drop d.client.client.sent)) (hacts ▸ List.mem_singleton.2 rfl)
      trivial).elim

theorem afterClient_accept (n n' : TimedClient) (a : SentRequest) (acts : List ClientAct) :
    (d.afterClient n []).afterClient n' acts = d.afterClient n' (.event (.accept a) :: acts) := by
  simp [Dialogue.afterClient, List.filterMap_cons, ClientAct.message?, ClientAct.isAck]

/-- **What a function does that makes a request** keeps the dialogue aligned, unless the client
gives the request up. -/
theorem Aligned.request (h : Aligned d R done last) (hresponds : d.Responds env) (e : Encoder)
    (hkept : ∀ act ∈ (d.client.client.request env e).2.2, ¬GivesUp act.toEvent) :
    Aligned (d.afterClient ⟨(d.client.client.request env e).2.1, env.millis⟩
        (d.client.client.request env e).2.2)
      (R ++ ((d.client.client.request env e).2.2.map ClientAct.toEvent).filterMap response?)
      done last := by
  cases request_outcome env e d.client.client with
  | refused hacts hstate hopen htimings =>
    rw [hacts, List.map_nil, List.filterMap_nil, List.append_nil]
    by_cases hidle : d.client.client.state = .idle
    · refine h.client rfl ?_ (by simp [hstate, hidle])
      simp [UDSClientT.unanswered, hstate, hidle]
    · rw [hopen hidle]
      exact h.client rfl (by simp) h.processing
  | made d' hidle hstate htimings hc' hacts =>
    have hbegun : Aligned (d.afterClient ⟨d', d.client.time⟩ []) R done last := by
      refine h.client rfl ?_ (by simp [hstate])
      simp [UDSClientT.unanswered, hstate, hidle]
    rw [hacts] at hkept ⊢
    rw [hc', ← afterClient_accept ⟨d', d.client.time⟩]
    exact hbegun.poll hresponds fun act hact => hkept act (List.mem_cons_of_mem _ hact)

/-! ### Runs -/

variable {tr : List DialogueEvent}

theorem clientEvents_client (tr : List DialogueEvent) (acts : List ClientAct) :
    clientEvents (tr ++ [.client acts]) = clientEvents tr ++ acts.map ClientAct.toEvent := by
  rw [clientEvents, List.filterMap_append]
  exact events_snoc _ _

theorem clientEvents_server (tr : List DialogueEvent) (p : Poll) :
    clientEvents (tr ++ [.server p]) = clientEvents tr := by
  rw [clientEvents, List.filterMap_append]
  exact congrArg events (List.append_nil _)

/-- **The dialogue stays aligned** as long as the client gives no request up. -/
theorem DialogueRun.aligned (hmtu : B.udsTpMtu = 65535) (h : DialogueRun B tr d)
    (hkept : ∀ e ∈ clientEvents tr, ¬GivesUp e) :
    ∃ done last, Aligned d (responded tr) done last ∧ done ++ last.toList = served tr := by
  induction h with
  | @start d h =>
    obtain ⟨⟨recvBuf, sendBuf, hclient⟩, ⟨env, fs, hserver⟩, htoServer, hacknowledged, htoClient,
      hread⟩ := h
    refine ⟨[], none, ⟨?_, ?_, List.nil_prefix, List.nil_prefix, by simp, by simp [responded,
      clientEvents, events], htoClient, hacknowledged, ?_, by simp, hread, ?_⟩, rfl⟩
    · rw [hserver]
      exact settings_udsServerInit env fs
    · rw [htoServer, hclient]
      rfl
    · rw [hserver]
      rfl
    · rw [hclient]
      intro hprocess
      cases hprocess
  | @snoc tr d d' l hrun hstep ih =>
    cases hstep with
    | request env e htime hresponds =>
      rw [clientEvents_client] at hkept
      obtain ⟨done, last, haligned, hserved⟩ := ih fun e he => hkept e (List.mem_append_left _ he)
      have hacts : ∀ act ∈ (d.client.client.request env e).2.2, ¬GivesUp act.toEvent :=
        fun act hact => hkept _ (List.mem_append_right _ (List.mem_map_of_mem hact))
      refine ⟨done, last, ?_, by simpa [served, DialogueEvent.served] using hserved⟩
      rw [responded, clientEvents_client, List.filterMap_append]
      exact haligned.request hresponds e hacts
    | poll env htime hresponds =>
      rw [clientEvents_client] at hkept
      obtain ⟨done, last, haligned, hserved⟩ := ih fun e he => hkept e (List.mem_append_left _ he)
      have hacts : ∀ act ∈ (d.client.client.pollLowLevel env).2, ¬GivesUp act.toEvent :=
        fun act hact => hkept _ (List.mem_append_right _ (List.mem_map_of_mem hact))
      refine ⟨done, last, ?_, by simpa [served, DialogueEvent.served] using hserved⟩
      rw [responded, clientEvents_client, List.filterMap_append]
      exact haligned.poll hresponds hacts
    | setOptions options defaultOptions =>
      rw [clientEvents_client] at hkept
      obtain ⟨done, last, haligned, hserved⟩ := ih fun e he => hkept e (List.mem_append_left _ he)
      refine ⟨done, last, ?_, by simpa [served, DialogueEvent.served] using hserved⟩
      rw [responded, clientEvents_client, List.map_nil, List.append_nil]
      exact haligned.client rfl (List.append_nil _) haligned.processing
    | server p t hpoll hrequest =>
      rw [clientEvents_server] at hkept
      obtain ⟨done, last, haligned, hserved⟩ := ih hkept
      obtain ⟨done', last', haligned', hserved'⟩ := haligned.server hmtu hpoll hrequest
      refine ⟨done', last', ?_, ?_⟩
      · rw [responded, clientEvents_server]
        exact haligned'
      · rw [hserved', hserved]
        simp [served]

/-- The client in a dialogue is a client. -/
theorem DialogueRun.clientRun (h : DialogueRun B tr d) :
    ClientRun (tr.filterMap DialogueEvent.acts?) d.client := by
  induction h with
  | start h => exact .start h.1
  | @snoc tr d d' l hrun hstep ih =>
    rw [List.filterMap_append]
    cases hstep with
    | request env e htime hresponds => exact ih.snoc (.request env e htime)
    | poll env htime hresponds => exact ih.snoc (.poll env htime)
    | setOptions options defaultOptions => exact ih.snoc (.setOptions options defaultOptions)
    | server p t hpoll hrequest =>
      have hnone : [DialogueEvent.server p].filterMap DialogueEvent.acts? = [] := rfl
      rw [hnone, List.append_nil]
      exact ih

/-- Without giving up, every request is concluded with a response. -/
theorem map_concluded {evs : List (Event SentRequest ReceivedResponse)}
    (h : ∀ e ∈ evs, ¬GivesUp e) :
    (concluded evs).map SentRequest.bytes = (evs.filterMap response?).map Prod.fst := by
  induction evs with
  | nil => rfl
  | cons e evs ih =>
    have hrest := ih fun e' he' => h e' (List.mem_cons_of_mem _ he')
    have hhead := h e List.mem_cons_self
    unfold concluded at hrest ⊢
    cases e <;> simp_all [List.filterMap_cons, Event.concluded?, response?, GivesUp]

/-- What was sent are the first of the requests that were made. -/
theorem DialogueRun.toServer_prefix (hrun : DialogueRun B tr d)
    (h : Aligned d (responded tr) done last) (hkept : ∀ e ∈ clientEvents tr, ¬GivesUp e) :
    d.toServer <+: (accepted (clientEvents tr)).map SentRequest.bytes := by
  obtain ⟨s, hrequester, hstands⟩ := hrun.clientRun.lives.requester
  have haccepted : accepted (clientEvents tr) = concluded (clientEvents tr) ++ s.held :=
    hrequester.accepted_eq
  have hopen : d.client.client.unanswered <+: s.held.map SentRequest.bytes := by
    rw [hstands.held]
    unfold UDSClientT.unanswered UDSClientT.openRequest
    cases hstate : d.client.client.state <;> simp
  rw [h.toServer, haccepted, List.map_append, map_concluded hkept]
  exact (List.prefix_append_right_inj _).2 hopen

/-- What the server has evaluated are the first of the requests that were made. -/
theorem DialogueRun.served_prefix (hmtu : B.udsTpMtu = 65535) (h : DialogueRun B tr d)
    (hkept : ∀ e ∈ clientEvents tr, ¬GivesUp e) :
    (served tr).map Prod.fst <+: (accepted (clientEvents tr)).map SentRequest.bytes := by
  obtain ⟨done, last, haligned, hserved⟩ := h.aligned hmtu hkept
  have hreceived : (served tr).map Prod.fst <+: d.toServer := hserved ▸ haligned.received
  exact hreceived.trans (h.toServer_prefix haligned hkept)

/-- **Answers belong to their requests.** As long as the client gives no request up, the requests it
has got a response to are the first that the server has evaluated, in the same order, and each has
got the response that the server has evaluated it to. The requests that the server has evaluated are
the first that the client has made, and only the last of them may still have no response. -/
theorem answers_belong_to_their_requests (hmtu : B.udsTpMtu = 65535) (h : DialogueRun B tr d)
    (hkept : ∀ e ∈ clientEvents tr, ¬GivesUp e) :
    responded tr <+: served tr ∧
      (served tr).map Prod.fst <+: (accepted (clientEvents tr)).map SentRequest.bytes ∧
      (served tr).length ≤ (responded tr).length + 1 := by
  obtain ⟨done, last, haligned, hserved⟩ := h.aligned hmtu hkept
  refine ⟨hserved ▸ haligned.responded.trans (List.prefix_append _ _),
    h.served_prefix hmtu hkept, ?_⟩
  have hreceived : (served tr).map Prod.fst <+: d.toServer := hserved ▸ haligned.received
  have hlength := hreceived.length_le
  have hunanswered := length_unanswered_le d.client.client
  rw [haligned.toServer, List.length_append, List.length_map, List.length_map] at hlength
  omega

/-! ### A dialogue -/

/-- What happens next in a dialogue in which every message arrives at once. -/
inductive DialogueInput
  | request (millis : ℕ) (sendRet : ℤ) (e : Encoder)
  | poll (millis : ℕ)
  | server (millis : ℕ)

/-- The transport of the client at a time. -/
def Dialogue.arriving (d : Dialogue) (millis : ℕ) (sendRet : ℤ) : ClientEnv :=
  .fair millis sendRet ((d.toClient[d.read]?).getD [])

theorem responds_arriving (d : Dialogue) (millis : ℕ) (sendRet : ℤ) :
    d.Responds (d.arriving millis sendRet) := by
  refine ⟨rfl, fun hlen => ?_⟩
  unfold Dialogue.arriving ClientEnv.fair at hlen ⊢
  cases hm : d.toClient[d.read]? with
  | none => simp [hm] at hlen
  | some m =>
    dsimp only [Option.getD_some]
    exact congrArg some (bytesAt_getD m fun _ => 0).symm

/-- The next step of a dialogue. -/
def Dialogue.next (B : Build) (d : Dialogue) : DialogueInput → Option (DialogueEvent × Dialogue)
  | .request millis sendRet e =>
    if d.client.time ≤ millis then
      let env := d.arriving millis sendRet
      let (_, client, acts) := d.client.client.request env e
      some (.client acts, d.afterClient ⟨client, millis⟩ acts)
    else none
  | .poll millis =>
    if d.client.time ≤ millis then
      let env := d.arriving millis 0
      let (client, acts) := d.client.client.pollLowLevel env
      some (.client acts, d.afterClient ⟨client, millis⟩ acts)
    else none
  | .server millis =>
    if h : ((d.toServer[d.acknowledged]?).getD []).length ≤ 65535 then
      let q := Request.ofBytes ((d.toServer[d.acknowledged]?).getD []) h fun _ => 0
      match d.server.udsServerPoll B (.fair millis) (.fair millis) q with
      | .error _ => none
      | .ok (t, events) =>
        some (.server ⟨.fair millis, .fair millis, q, events⟩, d.afterServer t events)
    else none

theorem eq_some_of_ofBytes {m? : Option Bytes} (h : (m?.getD []).length ≤ 65535)
    (hlen : (Request.ofBytes (m?.getD []) h fun _ => 0).len ≠ 0) :
    m? = some (bytesAt (Request.ofBytes (m?.getD []) h fun _ => 0).buf 0
      (Request.ofBytes (m?.getD []) h fun _ => 0).len) := by
  cases m? with
  | none => exact absurd rfl hlen
  | some m => exact congrArg some (bytesAt_getD m fun _ => 0).symm

theorem dialogueStep_of_next {input : DialogueInput} {l : DialogueEvent} {d' : Dialogue}
    (h : d.next B input = some (l, d')) : DialogueStep B d l d' := by
  cases input with
  | request millis sendRet e =>
    obtain ⟨htime, h⟩ := Option.ite_none_right_eq_some.1 h
    cases h
    exact .request (d.arriving millis sendRet) e htime (responds_arriving d millis sendRet)
  | poll millis =>
    obtain ⟨htime, h⟩ := Option.ite_none_right_eq_some.1 h
    cases h
    exact .poll (d.arriving millis 0) htime (responds_arriving d millis 0)
  | server millis =>
    unfold Dialogue.next at h
    dsimp only at h
    split_ifs at h with hlen
    split at h
    · cases h
    · next t events hpoll =>
      cases h
      exact .server _ t hpoll (eq_some_of_ofBytes hlen)

/-- Client and server after start-up. -/
def freshDialogue : Dialogue :=
  ⟨freshClient, udsServerInit (.fair 0) fun _ => none, [], 0, [], 0⟩

/-- `TesterPresent` is sent, served and answered. -/
theorem answers_belong_to_their_requests_tester_present :
    ∃ tr d, DialogueRun ⟨65535, .test⟩ tr d ∧ responded tr = [([0x3E, 0], [0x7E, 0])] ∧
      responded tr <+: served tr ∧
      (served tr).map Prod.fst <+: (accepted (clientEvents tr)).map SentRequest.bytes ∧
      (served tr).length ≤ (responded tr).length + 1 := by
  have hrun : (follow (Dialogue.next ⟨65535, .test⟩) freshDialogue
      [.request 0 2 udsSendTesterPresent, .poll 1, .server 2, .server 100, .poll 101,
        .poll 102]).map (fun r : List DialogueEvent × Dialogue =>
          (responded r.1, decide (∀ e ∈ clientEvents r.1, ¬GivesUp e))) =
        some ([([0x3E, 0], [0x7E, 0])], true) := by
    decide +kernel
  obtain ⟨⟨tr, d⟩, hfollow, hobserved⟩ := Option.map_eq_some_iff.1 hrun
  obtain ⟨hresponded, hkept⟩ := Prod.mk.inj hobserved
  have hpath := follow_path (Dialogue.next ⟨65535, .test⟩)
    (fun _ _ _ _ => dialogueStep_of_next) hfollow
  have hstart : DialogueStart freshDialogue :=
    ⟨⟨_, _, rfl⟩, ⟨_, _, rfl⟩, rfl, rfl, rfl, rfl⟩
  have h : DialogueRun ⟨65535, .test⟩ tr d := by
    simpa using (Run.start hstart : DialogueRun ⟨65535, .test⟩ [] freshDialogue).append hpath
  exact ⟨tr, d, h, hresponded, answers_belong_to_their_requests rfl h (of_decide_eq_true hkept)⟩

end EcuUpgrade
