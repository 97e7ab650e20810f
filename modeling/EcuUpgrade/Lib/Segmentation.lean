import EcuUpgrade.Lib.Blocks
import EcuUpgrade.Lib.Runs
import Mathlib.Algebra.Order.Ring.Nat
import Mathlib.Tactic.Ring

/-!
# Messages sent in numbered pieces

A message that does not fit into one piece is announced by a first piece, which carries its length
and its beginning, and followed by further pieces, which are numbered modulo some number. The
receiver collects them: it gives up when a number is not the one it expects, and ignores a piece
that is too short. The sender may abandon a message at any time and go on with another one, and the
receiver may lose patience, so that a message may be lost; but a message that is complete is one
that was sent, and no message arrives twice.

## Main definitions

* `Format`, `Piece`: how a message is cut.
* `Emitter`, `Emit`: the pieces a sender may produce.
* `Collector`, `accept`: the receiver.

## Main results

* `accept_next`: one more piece of the message that is being collected.
* `reads_sublist`: what is read was sent, in this order.
-/

namespace Segmentation

open Blocks Runs

variable {α : Type*}

/-- The number of elements in a first piece and in a later one, and the modulus of the numbers. -/
structure Format where
  head : ℕ
  body : ℕ
  modulus : ℕ

/-- The pieces: a whole message, the beginning of one with its length, or a numbered part of it. -/
inductive Piece (α : Type*)
  | whole (msg : List α)
  | first (total : ℕ) (data : List α)
  | next (number : ℕ) (data : List α)

/-! ### The sender -/

/-- A sender: the messages it has started to send, and the one that it has not finished, with the
number of its later pieces so far. -/
structure Emitter (α : Type*) where
  sent : List (List α)
  current : Option (List α × ℕ)

/-- The pieces that a sender may produce. A later piece may be filled up with other elements. -/
inductive Emit (F : Format) (e : Emitter α) : Piece α → Emitter α → Prop
  | whole (msg : List α) : Emit F e (.whole msg) ⟨e.sent ++ [msg], none⟩
  | first (msg : List α) (h : F.head < msg.length) :
      Emit F e (.first msg.length (msg.take F.head)) ⟨e.sent ++ [msg], some (msg, 0)⟩
  | next (msg data : List α) (k : ℕ) (hcurrent : e.current = some (msg, k))
      (hmore : F.head + k * F.body < msg.length)
      (hdata : block F.body (msg.drop F.head) k <+: data) :
      Emit F e (.next ((k + 1) % F.modulus) data) ⟨e.sent, some (msg, k + 1)⟩

/-- The runs of a sender. -/
abbrev EmitRun (F : Format) : List (Piece α) → Emitter α → Prop := Run (· = ⟨[], none⟩) (Emit F)

/-! ### The receiver -/

/-- A receiver: it has no message, or the beginning of a message of some length and the number of
the piece it expects, or a message. -/
inductive Collector (α : Type*)
  | empty
  | collecting (total : ℕ) (got : List α) (number : ℕ)
  | complete (msg : List α)

/-- The receiver takes a piece. It has room for messages of at most `limit` elements. -/
def Collector.accept (F : Format) (limit : ℕ) : Collector α → Piece α → Collector α
  | _, .whole msg => .complete msg
  | _, .first total data =>
    if limit < total then .empty else .collecting total data (1 % F.modulus)
  | .collecting total got number, .next number' data =>
    let needed := min F.body (total - got.length)
    if number ≠ number' then .empty
    else if data.length < needed then .collecting total got number
    else if got.length + needed < total then
      .collecting total (got ++ data.take needed) ((number + 1) % F.modulus)
    else .complete (got ++ data.take needed)
  | c, .next _ _ => c

/-- What happens to a receiver. -/
inductive Event (α : Type*)
  | piece (p : Piece α)
  | timeout
  | read (msg : List α)
  | silent

/-- The steps of a receiver. -/
inductive Collector.Step (F : Format) (limit : ℕ) : Collector α → Event α → Collector α → Prop
  | piece (c : Collector α) (p : Piece α) : Step F limit c (.piece p) (c.accept F limit p)
  | timeout (total : ℕ) (got : List α) (number : ℕ) :
      Step F limit (.collecting total got number) .timeout .empty
  | read (msg : List α) : Step F limit (.complete msg) (.read msg) .empty
  | silent (c : Collector α) : Step F limit c .silent c

/-- The runs of a receiver. -/
abbrev CollectorRun (F : Format) (limit : ℕ) : List (Event α) → Collector α → Prop :=
  Run (· = .empty) (Collector.Step F limit)

/-- The piece in an event. -/
def Event.piece? : Event α → Option (Piece α)
  | .piece p => some p
  | _ => none

/-- The message in an event. -/
def Event.read? : Event α → Option (List α)
  | .read msg => some msg
  | _ => none

/-- The pieces that were taken, in order. -/
def taken (tr : List (Event α)) : List (Piece α) := tr.filterMap Event.piece?

/-- The messages that were read, in order. -/
def reads (tr : List (Event α)) : List (List α) := tr.filterMap Event.read?

variable {F : Format} {limit : ℕ} {e e' : Emitter α} {c c' : Collector α} {p : Piece α}
  {ev : Event α} {tr : List (Event α)} {ps : List (Piece α)} {msg : List α} {k : ℕ}

theorem filterMap_snoc {ι κ : Type*} (f : ι → Option κ) (l : List ι) (a : ι) :
    (l ++ [a]).filterMap f = l.filterMap f ++ (f a).toList := by
  rw [List.filterMap_append]
  cases h : f a <;> simp [h]

theorem taken_snoc (tr : List (Event α)) (ev : Event α) :
    taken (tr ++ [ev]) = taken tr ++ ev.piece?.toList :=
  filterMap_snoc Event.piece? tr ev

theorem reads_snoc (tr : List (Event α)) (ev : Event α) :
    reads (tr ++ [ev]) = reads tr ++ ev.read?.toList :=
  filterMap_snoc Event.read? tr ev

/-! ### One message -/

/-- The beginning of a message that has arrived with its first piece and `k` later ones. -/
def beginning (F : Format) (msg : List α) (k : ℕ) : List α := msg.take (F.head + k * F.body)

/-- The receiver when `k` later pieces of a message have arrived. -/
def awaiting (F : Format) (msg : List α) (k : ℕ) : Collector α :=
  .collecting msg.length (beginning F msg k) ((k + 1) % F.modulus)

theorem length_beginning (h : F.head + k * F.body ≤ msg.length) :
    (beginning F msg k).length = F.head + k * F.body := by
  rw [beginning, List.length_take, min_eq_left h]

/-- The next piece goes on where the beginning ends. -/
theorem beginning_append_block (F : Format) (msg : List α) (k : ℕ) :
    beginning F msg k ++ block F.body (msg.drop F.head) k = beginning F msg (k + 1) := by
  rw [beginning, beginning, List.take_add, List.take_add, take_succ_mul, List.append_assoc]

theorem length_block_drop (F : Format) (msg : List α) (k : ℕ) :
    (block F.body (msg.drop F.head) k).length =
      min F.body (msg.length - (F.head + k * F.body)) := by
  rw [block, List.length_take, List.length_drop, List.length_drop]
  omega

theorem accept_first (hlimit : msg.length ≤ limit) :
    c.accept F limit (.first msg.length (msg.take F.head)) = awaiting F msg 0 := by
  have hhead : beginning F msg 0 = msg.take F.head := by rw [beginning, Nat.zero_mul, Nat.add_zero]
  rw [awaiting, hhead]
  exact if_neg (Nat.not_lt.2 hlimit)

/-- **The next piece of a message** is appended to its beginning, and completes it if it is the last
one. -/
theorem accept_next {data : List α} (hmore : F.head + k * F.body < msg.length)
    (hdata : block F.body (msg.drop F.head) k <+: data) :
    (awaiting F msg k).accept F limit (.next ((k + 1) % F.modulus) data) =
      if F.head + (k + 1) * F.body < msg.length then awaiting F msg (k + 1)
      else .complete msg := by
  have hlen := length_beginning hmore.le
  have hblock := length_block_drop F msg k
  have hsucc : F.head + (k + 1) * F.body = F.head + k * F.body + F.body := by ring
  have htake : data.take (min F.body (msg.length - (F.head + k * F.body))) =
      block F.body (msg.drop F.head) k := by
    rw [← hblock]
    exact (List.prefix_iff_eq_take.1 hdata).symm
  have hlong : ¬data.length < min F.body (msg.length - (F.head + k * F.body)) := by
    rw [← hblock]
    exact Nat.not_lt.2 hdata.length_le
  rw [awaiting, Collector.accept, hlen]
  rw [if_neg (not_not.2 rfl), if_neg hlong, htake, beginning_append_block]
  by_cases hlast : F.head + (k + 1) * F.body < msg.length
  · rw [if_pos hlast, if_pos (by omega), awaiting, Nat.mod_add_mod]
  · have hall : beginning F msg (k + 1) = msg := List.take_of_length_le (Nat.not_lt.1 hlast)
    rw [if_neg hlast, if_neg (by omega), hall]

/-! ### Streams of messages -/

theorem Emit.sent_prefix (h : Emit F e p e') : e.sent <+: e'.sent := by
  cases h with
  | whole | first => exact List.prefix_append _ _
  | next => exact List.prefix_rfl

/-- The messages sent up to some piece are sent first. -/
theorem sent_prefix_of_path (h : Path (Emit F) e ps e') : e.sent <+: e'.sent := by
  induction h with
  | nil => exact List.prefix_rfl
  | cons hs _ ih => exact hs.sent_prefix.trans ih

/-- What a receiver holds, and what was read from it, when it has taken all pieces of a sender. -/
inductive Follows (F : Format) (e : Emitter α) (read : List (List α)) : Collector α → Prop
  | empty (hread : List.Sublist read e.sent) : Follows F e read .empty
  | collecting (total : ℕ) (got : List α) (number : ℕ) (hread : List.Sublist read e.sent)
      (hcurrent : ∀ msg k, e.current = some (msg, k) →
        Collector.collecting total got number = awaiting F msg k ∧
          ∃ before, e.sent = before ++ [msg] ∧ List.Sublist read before) :
      Follows F e read (.collecting total got number)
  | complete (msg : List α) (hread : List.Sublist (read ++ [msg]) e.sent) :
      Follows F e read (.complete msg)

variable {read : List (List α)}

theorem Follows.read_sublist (h : Follows F e read c) : List.Sublist read e.sent := by
  cases h with
  | empty hread => exact hread
  | collecting _ _ _ hread => exact hread
  | complete msg hread => exact (List.sublist_append_left _ _).trans hread

/-- **The receiver follows the sender** from piece to piece. -/
theorem Follows.accept (h : Follows F e read c) (hp : Emit F e p e') :
    Follows F e' read (c.accept F limit p) := by
  have hsent := (h.read_sublist).trans hp.sent_prefix.sublist
  cases hp with
  | whole msg =>
    rw [Collector.accept]
    exact .complete msg (h.read_sublist.append (List.Sublist.refl _))
  | first msg hlong =>
    by_cases hlimit : limit < msg.length
    · rw [Collector.accept, if_pos hlimit]
      exact .empty hsent
    · rw [accept_first (Nat.not_lt.1 hlimit)]
      refine .collecting _ _ _ hsent fun msg' k hcurrent => ?_
      obtain ⟨rfl, rfl⟩ := Prod.mk.inj (Option.some.inj hcurrent)
      exact ⟨rfl, e.sent, rfl, h.read_sublist⟩
  | next msg data k hcurrent hmore hdata =>
    cases h with
    | empty => exact .empty hsent
    | complete msg hread => exact .complete msg hread
    | collecting total got number hread hmatch =>
      obtain ⟨hawaiting, before, hbefore, hsublist⟩ := hmatch msg k hcurrent
      rw [hawaiting, accept_next hmore hdata]
      split_ifs with hlast
      · refine .collecting _ _ _ hread fun msg' k' hcurrent' => ?_
        obtain ⟨rfl, rfl⟩ := Prod.mk.inj (Option.some.inj hcurrent')
        exact ⟨rfl, before, hbefore, hsublist⟩
      · refine .complete msg ?_
        rw [hbefore]
        exact hsublist.append (List.Sublist.refl _)

/-- A receiver that has taken exactly the pieces of a sender follows it. -/
theorem CollectorRun.follows (hc : CollectorRun F limit tr c) (he : EmitRun F (taken tr) e) :
    Follows F e (reads tr) c := by
  induction hc generalizing e with
  | start h =>
    subst h
    exact .empty (List.nil_sublist _)
  | @snoc tr c c' ev hc hstep ih =>
    rw [taken_snoc] at he
    rw [reads_snoc]
    cases hstep with
    | piece _ p =>
      obtain ⟨e₀, he₀, hp⟩ := Run.snoc_iff.1 he
      simpa [Event.read?] using (ih he₀).accept hp
    | timeout =>
      have hfollows := ih (by simpa [Event.piece?] using he)
      simpa [Event.read?] using Follows.empty hfollows.read_sublist
    | read msg =>
      cases ih (by simpa [Event.piece?] using he) with
      | complete _ hread => exact .empty hread
    | silent => simpa [Event.read?] using ih (by simpa [Event.piece?] using he)

/-- **What is read was sent, in this order**, whenever the pieces taken are the first ones of those
that a sender has produced. -/
theorem reads_sublist (hc : CollectorRun F limit tr c) (he : EmitRun F ps e)
    (hfirst : taken tr <+: ps) : List.Sublist (reads tr) e.sent := by
  obtain ⟨rest, rfl⟩ := hfirst
  obtain ⟨e₀, he₀, hpath⟩ := Run.append_iff.1 he
  exact (hc.follows he₀).read_sublist.trans (sent_prefix_of_path hpath).sublist

end Segmentation
