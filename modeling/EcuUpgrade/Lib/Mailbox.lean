import EcuUpgrade.Lib.Runs

/-!
# A mailbox with one slot

A server with one slot for requests: a request is delivered into the empty slot, taken from it,
answered, and then the slot is released. As long as nothing is delivered before the slot has been
released, no request is lost, and requests and answers alternate.

## Main definitions

* `State`, `Event`, `Step`: the mailbox.
* `delivered`, `taken`, `answers`: what the history says.

## Main results

* `MailboxRun.delivered_eq`: what was delivered has been taken, in order, or is held.
* `MailboxRun.alternates`: one answer between a request and the next.
-/

namespace Mailbox

open Runs

variable {α : Type*}

/-- The states of a mailbox. -/
inductive State (α : Type*)
  | empty
  | holding (m : α)
  | working
  | answered

/-- What happens to a mailbox. -/
inductive Event (α : Type*)
  | deliver (m : α)
  | take (m : α)
  | answer
  | release
  | silent

/-- The steps of a mailbox. -/
inductive Step : State α → Event α → State α → Prop
  | deliver (m : α) : Step .empty (.deliver m) (.holding m)
  | take (m : α) : Step (.holding m) (.take m) .working
  | answer : Step .working .answer .answered
  | release : Step .answered .release .empty
  | silent (s : State α) : Step s .silent s

/-- The runs of a mailbox that is empty at first. -/
abbrev MailboxRun : List (Event α) → State α → Prop := Run (· = .empty) Step

/-- The requests that were delivered, in order. -/
def delivered (tr : List (Event α)) : List α :=
  tr.filterMap fun
    | .deliver m => some m
    | _ => none

/-- The requests that were taken, in order. -/
def taken (tr : List (Event α)) : List α :=
  tr.filterMap fun
    | .take m => some m
    | _ => none

/-- The number of answers. -/
def answers (tr : List (Event α)) : ℕ :=
  tr.countP fun
    | .answer => true
    | _ => false

/-- The request in the slot that was not taken yet. -/
def State.held : State α → List α
  | .holding m => [m]
  | _ => []

/-- The number of answers that are due. -/
def State.due : State α → ℕ
  | .working => 1
  | _ => 0

@[simp] theorem delivered_append (tr tr' : List (Event α)) :
    delivered (tr ++ tr') = delivered tr ++ delivered tr' :=
  List.filterMap_append

@[simp] theorem taken_append (tr tr' : List (Event α)) :
    taken (tr ++ tr') = taken tr ++ taken tr' :=
  List.filterMap_append

@[simp] theorem answers_append (tr tr' : List (Event α)) :
    answers (tr ++ tr') = answers tr + answers tr' :=
  List.countP_append

variable {tr : List (Event α)} {s : State α}

/-- **Nothing is lost.** What was delivered has been taken, in order, or is held; and every request
that was taken has been answered, unless its answer is due. -/
theorem MailboxRun.delivered_eq (h : MailboxRun tr s) :
    delivered tr = taken tr ++ s.held ∧ (taken tr).length = answers tr + s.due := by
  induction h with
  | start h =>
    subst h
    exact ⟨rfl, rfl⟩
  | snoc _ hs ih =>
    obtain ⟨hdelivered, hlength⟩ := ih
    rw [delivered_append, taken_append, answers_append, List.length_append, hdelivered, hlength]
    cases hs <;> simp [delivered, taken, answers, State.held, State.due]

/-- A request is taken when all before it are answered, and an answer is given when just one request
has none. -/
def Alternates (pre : List (Event α)) : Event α → Prop
  | .take _ => (taken pre).length = answers pre
  | .answer => (taken pre).length = answers pre + 1
  | _ => True

/-- **Requests and answers alternate.** -/
theorem MailboxRun.alternates (h : MailboxRun tr s) : Everywhere Alternates tr := by
  refine Run.everywhere (fun pre a e a' hrun hstep => ?_) h
  have hlength := (MailboxRun.delivered_eq hrun).2
  cases hstep with
  | take m => exact hlength
  | answer => exact hlength
  | deliver m => trivial
  | release => trivial
  | silent a => trivial

end Mailbox
