import EcuUpgrade.Lib.Runs

/-!
# Requesters

A requester makes one request at a time. It sends the request, and then it awaits a response until
a deadline, which a response may put off. The request is concluded by an answer, by a response that
is refused, when the deadline is over, or because no response is awaited any longer. Only then the
next request is accepted.

## Main definitions

* `Verdict`: what a response is to a request.
* `State`, `Event`, `Step`: the requester.
* `accepted`, `concluded`: what the history says.
* `Event.Sets`: the events that set a deadline.

## Main results

* `RequesterRun.accepted_eq`: the requests are concluded one after the other.
* `RequesterRun.judged`: answers fit their requests.
* `RequesterRun.expires`: no request expires before its deadline.
-/

namespace Requester

open Runs

variable {α β : Type*}

/-- What a response is to a request. -/
inductive Verdict
  | final
  | pending
  | refused
  deriving DecidableEq, Repr

/-- The states of a requester. -/
inductive State (α : Type*)
  | idle
  | sending (a : α)
  | awaiting (a : α) (deadline : ℕ)

/-- What happens to a requester. A deadline is given by the time it is set and a period. -/
inductive Event (α β : Type*)
  | accept (a : α)
  | await (a : α) (now period : ℕ)
  | extend (a : α) (b : β) (now period : ℕ)
  | answer (a : α) (b : β)
  | refuse (a : α) (b : β)
  | expire (a : α) (now : ℕ)
  | drop (a : α)
  | silent

variable (judge : α → β → Verdict)

/-- The steps of a requester that judges the responses in a certain way. -/
inductive Step : State α → Event α β → State α → Prop
  | accept (a : α) : Step .idle (.accept a) (.sending a)
  | await (a : α) (now period : ℕ) :
      Step (.sending a) (.await a now period) (.awaiting a (now + period))
  | extend {a : α} {b : β} (deadline now period : ℕ) (h : judge a b = .pending) :
      Step (.awaiting a deadline) (.extend a b now period) (.awaiting a (now + period))
  | answer {a : α} {b : β} (deadline : ℕ) (h : judge a b = .final) :
      Step (.awaiting a deadline) (.answer a b) .idle
  | refuse {a : α} {b : β} (deadline : ℕ) (h : judge a b = .refused) :
      Step (.awaiting a deadline) (.refuse a b) .idle
  | expire {a : α} {deadline now : ℕ} (h : deadline < now) :
      Step (.awaiting a deadline) (.expire a now) .idle
  | dropSending (a : α) : Step (.sending a) (.drop a) .idle
  | dropAwaiting (a : α) (deadline : ℕ) : Step (.awaiting a deadline) (.drop a) .idle
  | silent (s : State α) : Step s .silent s

/-- The runs of a requester that makes no request at first. -/
abbrev RequesterRun : List (Event α β) → State α → Prop := Run (· = .idle) (Step judge)

/-- The request of an event that accepts one. -/
def Event.accepted? : Event α β → Option α
  | .accept a => some a
  | _ => none

/-- The request of an event that concludes one. -/
def Event.concluded? : Event α β → Option α
  | .answer a _ | .refuse a _ | .expire a _ | .drop a => some a
  | _ => none

/-- An event that sets a deadline for a request. -/
def Event.Sets (a : α) (deadline : ℕ) : Event α β → Prop
  | .await a' now period | .extend a' _ now period => a' = a ∧ now + period = deadline
  | _ => False

/-- The requests that were accepted, in order. -/
def accepted (tr : List (Event α β)) : List α := tr.filterMap Event.accepted?

/-- The requests that were concluded, in order. -/
def concluded (tr : List (Event α β)) : List α := tr.filterMap Event.concluded?

/-- The request that is not concluded yet. -/
def State.held : State α → List α
  | .idle => []
  | .sending a | .awaiting a _ => [a]

@[simp] theorem accepted_append (tr tr' : List (Event α β)) :
    accepted (tr ++ tr') = accepted tr ++ accepted tr' :=
  List.filterMap_append

@[simp] theorem concluded_append (tr tr' : List (Event α β)) :
    concluded (tr ++ tr') = concluded tr ++ concluded tr' :=
  List.filterMap_append

variable {judge} {tr : List (Event α β)} {s : State α}

theorem path_silent {evs : List (Event α β)} (h : ∀ e ∈ evs, e = .silent) :
    Path (Step judge) s evs s := by
  induction evs with
  | nil => exact .nil s
  | cons e evs ih =>
    obtain rfl := h e (by simp)
    exact .cons (.silent s) (ih fun e he => h e (by simp [he]))

/-- **One request after the other.** The requests accepted are those that were concluded, in the
same order, and the one that is still held. -/
theorem RequesterRun.accepted_eq (h : RequesterRun judge tr s) :
    accepted tr = concluded tr ++ s.held := by
  induction h with
  | start h =>
    subst h
    rfl
  | snoc _ hs ih =>
    rw [accepted_append, concluded_append, ih]
    cases hs <;> simp [accepted, concluded, List.filterMap_cons, Event.accepted?, Event.concluded?,
      State.held]

/-- What an event says about the response in it is right. -/
def Judged (judge : α → β → Verdict) : Event α β → Prop
  | .answer a b => judge a b = .final
  | .refuse a b => judge a b = .refused
  | .extend a b _ _ => judge a b = .pending
  | _ => True

/-- **Answers fit their requests**, and so do the responses that are refused or put a deadline
off. -/
theorem RequesterRun.judged (h : RequesterRun judge tr s) : ∀ e ∈ tr, Judged judge e := by
  induction h with
  | start h => simp
  | snoc _ hs ih =>
    intro e he
    rcases List.mem_append.1 he with he | he
    · exact ih e he
    · obtain rfl := List.mem_singleton.1 he
      cases hs with
      | extend _ _ _ h => exact h
      | answer _ h => exact h
      | refuse _ h => exact h
      | _ => trivial

/-- The deadline of a request is the last one that was set in a history. -/
def LastSet (a : α) (deadline : ℕ) : List (Event α β) → Prop :=
  Since (·.Sets a deadline) fun e => ∃ a' deadline', e.Sets a' deadline'

/-- The deadline in force is the last one that was set. -/
theorem RequesterRun.lastSet (h : RequesterRun judge tr s) {a : α} {deadline : ℕ}
    (hs : s = .awaiting a deadline) : LastSet a deadline tr := by
  induction h with
  | start h => cases h.symm.trans hs
  | snoc _ hstep ih =>
    refine since_snoc.2 ?_
    cases hstep with
    | await a' now period =>
      cases hs
      exact .inl ⟨rfl, rfl⟩
    | extend deadline' now period h =>
      cases hs
      exact .inl ⟨rfl, rfl⟩
    | silent s => exact .inr ⟨fun ⟨_, _, h⟩ => h, ih hs⟩
    | _ => cases hs

/-- A request expires after the deadline that was set for it last. -/
def Expires (pre : List (Event α β)) : Event α β → Prop
  | .expire a now => ∃ deadline, LastSet a deadline pre ∧ deadline < now
  | _ => True

/-- **No request expires before its deadline.** -/
theorem RequesterRun.expires (h : RequesterRun judge tr s) : Everywhere Expires tr := by
  refine Run.everywhere (fun pre s e t hrun hstep => ?_) h
  cases hstep with
  | @expire a deadline now h => exact ⟨deadline, RequesterRun.lastSet hrun rfl, h⟩
  | _ => trivial

end Requester
