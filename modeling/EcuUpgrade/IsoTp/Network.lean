import EcuUpgrade.IsoTp.Sender

/-!
# Two links

The frames that one of two links sends reach the other one, in their order and with any delay. Both
ends send and receive messages, their calls are mixed in any way, and the clocks may show anything:
a transmission is given up by either side when a timer expires, or by the sender when the receiver
has no room or a frame cannot be sent. Messages get lost then, but none is changed, none arrives
twice, and none overtakes another.

## Main definitions

* `Network`, `NetStep`, `NetRun`: two links and the frames between them.

## Main results

* `NetRun.link`: each end sees a sequence of calls.
* `NetRun.channel`: what was sent has been handled or is under way.
* `messages_in_order`: **what is received was sent, in this order.**
-/

namespace EcuUpgrade

open Runs Segmentation

/-- The two ends. -/
inductive Side
  | left
  | right
  deriving DecidableEq, Repr

/-- The other end. -/
def Side.other : Side → Side
  | .left => .right
  | .right => .left

/-- Two links, and the frames that are under way to each. -/
structure Network where
  links : Side → IsoTpLink
  inbox : Side → List Bytes

/-- The frame that a call handles. -/
def IsoTpOp.handled? : IsoTpOp → Option Bytes
  | .onCanMessage data => some data
  | _ => none

/-- The data of the frame that a call sends. -/
def IsoTpEvent.frame? (ev : IsoTpEvent) : Option Bytes := ev.sent.map CanFrame.data

/-- A call at one end. -/
structure NetStep (n : Network) (call : Side × IsoTpEvent) (n' : Network) : Prop where
  link : LinkStep (n.links call.1) call.2 (n'.links call.1)
  links : n'.links call.1.other = n.links call.1.other
  handled : n.inbox call.1 = call.2.op.handled?.toList ++ n'.inbox call.1
  sent : n'.inbox call.1.other = n.inbox call.1.other ++ call.2.frame?.toList

/-- The links are idle and there are no frames. -/
structure Network.Initial (n : Network) : Prop where
  sendStatus s : (n.links s).tx.sendStatus = .idle
  sendBufSize s : (n.links s).tx.sendBufSize.toNat ≤ 4095
  receiveStatus s : (n.links s).rx.receiveStatus = .idle
  inbox s : n.inbox s = []

/-- The calls at two ends. -/
abbrev NetRun (n₀ : Network) : List (Side × IsoTpEvent) → Network → Prop := Run (· = n₀) NetStep

/-- The calls at one end. -/
def callsAt (s : Side) (tr : List (Side × IsoTpEvent)) : List IsoTpEvent :=
  tr.filterMap fun call => if call.1 = s then some call.2 else none

/-- The messages that an end has accepted. -/
def acceptedAt (s : Side) (tr : List (Side × IsoTpEvent)) : List Bytes :=
  (callsAt s tr).filterMap IsoTpEvent.accepted?

/-- What was received at an end. -/
def receiptsAt (s : Side) (tr : List (Side × IsoTpEvent)) : List (UInt16 × Bytes) :=
  (callsAt s tr).filterMap IsoTpEvent.receipt?

variable {n₀ n n' : Network} {tr : List (Side × IsoTpEvent)} {call : Side × IsoTpEvent} {s : Side}

theorem emitted?_eq (ev : IsoTpEvent) : ev.emitted? = ev.frame?.bind pieceOf := by
  rw [IsoTpEvent.emitted?, takenPiece, IsoTpEvent.frame?, Option.bind_map]
  rfl

theorem piece?_eq (ev : IsoTpEvent) : ev.piece? = ev.op.handled?.bind pieceOf := by
  obtain ⟨op, ret, payload, sent⟩ := ev
  cases op <;> rfl

theorem callsAt_snoc (s : Side) (tr : List (Side × IsoTpEvent)) (call : Side × IsoTpEvent) :
    callsAt s (tr ++ [call]) = callsAt s tr ++ if call.1 = s then [call.2] else [] := by
  rw [callsAt, filterMap_snoc]
  split_ifs <;> rfl

theorem Side.eq_or_eq_other (s t : Side) : t = s ∨ t = s.other := by
  cases s <;> cases t <;> decide

theorem Side.other_ne (s : Side) : s.other ≠ s := by
  cases s <;> decide

theorem Side.other_other (s : Side) : s.other.other = s := by
  cases s <;> rfl

/-- **Each end sees a sequence of calls.** -/
theorem NetRun.link (h : NetRun n₀ tr n) (s : Side) :
    LinkRun (n₀.links s) (callsAt s tr) (n.links s) := by
  induction h with
  | start h =>
    subst h
    exact .start rfl
  | @snoc tr n n' call _ hs ih =>
    rw [callsAt_snoc]
    rcases Side.eq_or_eq_other s call.1 with rfl | heq
    · rw [if_pos rfl]
      exact ih.snoc hs.link
    · rw [if_neg (by rw [heq]; exact s.other_ne), List.append_nil]
      have hlinks := hs.links
      rw [heq, s.other_other] at hlinks
      rwa [hlinks]

/-- **What was sent has been handled or is under way.** -/
theorem NetRun.channel (h : NetRun n₀ tr n) (h₀ : n₀.Initial) (s : Side) :
    (callsAt s tr).filterMap IsoTpEvent.frame? =
      (callsAt s.other tr).filterMap (·.op.handled?) ++ n.inbox s.other := by
  induction h with
  | start h =>
    subst h
    exact (h₀.inbox s.other).symm
  | @snoc tr n n' call _ hs ih =>
    rw [callsAt_snoc, callsAt_snoc]
    rcases Side.eq_or_eq_other s call.1 with rfl | heq
    · rw [if_pos rfl, if_neg call.1.other_ne.symm, filterMap_snoc, ih, List.append_nil, hs.sent,
        List.append_assoc]
    · have hhandled := hs.handled
      rw [heq] at hhandled
      rw [if_neg (by rw [heq]; exact s.other_ne), if_pos heq, filterMap_snoc, List.append_nil, ih,
        hhandled, List.append_assoc]

/-! ### Schedules -/

/-- A call that is to be made, or the next frame that is to be handled. -/
inductive NetInput
  | send (payload : Bytes)
  | poll
  | deliver
  | receive (payloadSize : UInt16)

/-- The call for an input at one end. -/
def Network.op? (n : Network) (s : Side) : NetInput → Option IsoTpOp
  | .send payload => if payload.length < 2 ^ 16 then some (.send payload) else none
  | .poll => some .poll
  | .deliver => (n.inbox s).head?.map .onCanMessage
  | .receive payloadSize => some (.receive payloadSize)

/-- A call, and the links and frames after it. -/
def Network.perform (n : Network) (s : Side) (env : IsoTpEnv) (op : IsoTpOp) :
    (Side × IsoTpEvent) × Network :=
  let (ev, link) := (n.links s).perform env op
  ((s, ev), {
    links t := if t = s then link else n.links t
    inbox t := if t = s then (n.inbox t).drop op.handled?.toList.length
      else n.inbox t ++ ev.frame?.toList })

/-- The step that an input prescribes. -/
def Network.next (n : Network) (input : Side × IsoTpEnv × NetInput) :
    Option ((Side × IsoTpEvent) × Network) :=
  (n.op? input.1 input.2.2).map (n.perform input.1 input.2.1)

theorem netStep_perform (env : IsoTpEnv) (op : IsoTpOp) (hfits : op.Fits)
    (hhandled : n.inbox s = op.handled?.toList ++ (n.inbox s).drop op.handled?.toList.length) :
    NetStep n (n.perform s env op).1 (n.perform s env op).2 where
  link := by
    have hlink : (n.perform s env op).2.links s = ((n.links s).perform env op).2 := if_pos rfl
    change LinkStep (n.links s) _ ((n.perform s env op).2.links s)
    rw [hlink]
    exact linkStep_perform env (n.links s) hfits
  links := if_neg s.other_ne
  handled := by
    change n.inbox s = ((n.links s).perform env op).1.op.handled?.toList ++ (if s = s then _ else _)
    rw [perform_op, if_pos rfl]
    exact hhandled
  sent := if_neg s.other_ne

/-- What an input prescribes is a step. -/
theorem netStep_next {input : Side × IsoTpEnv × NetInput} (h : n.next input = some (call, n')) :
    NetStep n call n' := by
  obtain ⟨s, env, input⟩ := input
  obtain ⟨op, hop, heq⟩ := Option.map_eq_some_iff.1 h
  obtain ⟨rfl, rfl⟩ := Prod.mk.inj heq.symm
  rcases input with payload | _ | _ | payloadSize
  · change (if payload.length < 2 ^ 16 then _ else none) = some op at hop
    split_ifs at hop with hsize
    cases hop
    exact netStep_perform env (.send payload) hsize rfl
  · cases hop
    exact netStep_perform env .poll trivial rfl
  · change (n.inbox s).head?.map _ = some op at hop
    rcases hinbox : n.inbox s with _ | ⟨data, rest⟩
    · rw [hinbox] at hop
      cases hop
    · rw [hinbox] at hop
      cases hop
      exact netStep_perform env (.onCanMessage data) trivial (by rw [hinbox]; rfl)
  · cases hop
    exact netStep_perform env (.receive payloadSize) trivial rfl

/-- A schedule gives a run. -/
theorem netRun_of_follow {inputs : List (Side × IsoTpEnv × NetInput)}
    (h : follow Network.next n₀ inputs = some (tr, n)) : NetRun n₀ tr n := by
  have hpath : Runs.Path NetStep n₀ tr n :=
    follow_path Network.next (fun _ _ _ _ => netStep_next) h
  simpa using (Run.start rfl : NetRun n₀ [] n₀).append hpath

/-- Two links with buffers of 4095 bytes. -/
def freshNetwork : Network where
  links _ := isotpInitLink 0x7E0 (fun _ => 0) 4095 (fun _ => 0) 4095
  inbox _ := []

theorem freshNetwork_initial : freshNetwork.Initial :=
  ⟨fun _ => rfl, fun _ => (by decide : (4095 : UInt16).toNat ≤ 4095), fun _ => rfl, fun _ => rfl⟩

/-- **What is received was sent, in this order.** Messages may get lost, as timers expire and the
sender goes on with another message; but none is changed, doubled or overtaken. -/
theorem messages_in_order (h₀ : n₀.Initial) (h : NetRun n₀ tr n) (s : Side) :
    ∃ msgs, List.Sublist msgs (acceptedAt s tr) ∧
      List.Forall₂ Copies (receiptsAt s.other tr) msgs := by
  obtain ⟨e, hemits, -, hsent⟩ :=
    LinkRun.emits (NetRun.link h s) (h₀.sendStatus s) (h₀.sendBufSize s)
  obtain ⟨cevs, hcollector, htaken, hreads⟩ :=
    LinkRun.collector (NetRun.link h s.other) (h₀.receiveStatus s.other)
  have hpieces : (callsAt s tr).filterMap IsoTpEvent.emitted? =
      taken cevs ++ (n.inbox s.other).filterMap pieceOf := by
    have hchannel := congrArg (List.filterMap pieceOf) (NetRun.channel h h₀ s)
    rw [List.filterMap_append, List.filterMap_filterMap, List.filterMap_filterMap] at hchannel
    rw [htaken, funext emitted?_eq, funext piece?_eq]
    exact hchannel
  refine ⟨reads cevs, ?_, hreads⟩
  rw [acceptedAt, ← hsent]
  exact reads_sublist hcollector hemits (hpieces ▸ List.prefix_append _ _)

/-- Ten bytes are sent from left to right, in a first frame and a consecutive one. -/
theorem messages_in_order_ten : ∃ tr n, NetRun freshNetwork tr n ∧
    receiptsAt .right tr = [(4095, [1, 2, 3, 4, 5, 6, 7, 8, 9, 10])] ∧
    ∃ msgs, List.Sublist msgs (acceptedAt .left tr) ∧
      List.Forall₂ Copies (receiptsAt .right tr) msgs := by
  have hrun : (follow Network.next freshNetwork
      ([(.left, .send [1, 2, 3, 4, 5, 6, 7, 8, 9, 10]), (.right, .deliver), (.left, .deliver),
        (.left, .poll), (.right, .deliver), (.right, .receive 4095)].map fun (s, input) =>
          (s, ⟨fun _ => 5, .ok⟩, input))).map (fun r => receiptsAt .right r.1) =
        some [(4095, [1, 2, 3, 4, 5, 6, 7, 8, 9, 10])] := by
    decide
  obtain ⟨⟨tr, n⟩, hfollow, hreceipts⟩ := Option.map_eq_some_iff.1 hrun
  have h := netRun_of_follow hfollow
  exact ⟨tr, n, h, hreceipts, messages_in_order freshNetwork_initial h .left⟩

end EcuUpgrade
