import EcuUpgrade.Lib.Runs

/-!
# Block transfers

A receiver of block transfers is idle or receiving. A transfer is opened with an announced total;
while it lasts, blocks are taken as long as the receiver admits them; it ends when it is closed or
aborted. What the receiver holds is determined by what was observed: the blocks taken since the
last opening.

## Main definitions

* `Event`, `State`, `Step`: the receiver. `Step` is parametric in the condition `admits` under
  which a block is taken.
* `blocks`, `announced`: the blocks since the last opening, and its total.

## Main results

* `TransferRun.receiving`: a receiving state holds the blocks since the last opening.
* `TransferRun.length_le`: it holds at most the announced total if `admits` keeps to it.
-/

namespace BlockTransfer

open Runs

variable {α : Type*}

/-- What is observed of a receiver. -/
inductive Event (α : Type*)
  | opened (total : ℕ)
  | block (data : List α)
  | closed
  | aborted
  | other

/-- The states of a receiver. -/
inductive State (α : Type*)
  | idle
  | receiving (total : ℕ) (held : List (List α))

open State

/-- The steps of a receiver that takes a block if it `admits` the announced total, the length
received so far and the length of the block. -/
inductive Step (admits : ℕ → ℕ → ℕ → Prop) : State α → Event α → State α → Prop
  | opened (total : ℕ) : Step admits idle (.opened total) (receiving total [])
  | block {total : ℕ} {held : List (List α)} {data : List α}
      (h : admits total held.flatten.length data.length) :
      Step admits (receiving total held) (.block data) (receiving total (held ++ [data]))
  | closed {total : ℕ} {held : List (List α)} : Step admits (receiving total held) .closed idle
  | aborted (s : State α) : Step admits s .aborted idle
  | other (s : State α) : Step admits s .other s

/-- The runs of a receiver that is idle at first. -/
abbrev TransferRun (admits : ℕ → ℕ → ℕ → Prop) : List (Event α) → State α → Prop :=
  Run (· = idle) (Step admits)

/-- The blocks after an event. -/
def Event.blocks : Event α → List (List α) → List (List α)
  | .opened _, _ => []
  | .block data, held => held ++ [data]
  | _, held => held

/-- The blocks since the last opening. -/
def blocks (tr : List (Event α)) : List (List α) := tr.foldl (fun held e => e.blocks held) []

/-- The announced total after an event. -/
def Event.announced : Event α → Option ℕ → Option ℕ
  | .opened total, _ => some total
  | _, total => total

/-- The total announced by the last opening. -/
def announced (tr : List (Event α)) : Option ℕ := tr.foldl (fun total e => e.announced total) none

@[simp] theorem blocks_nil : blocks ([] : List (Event α)) = [] := rfl

@[simp] theorem blocks_snoc (tr : List (Event α)) (e : Event α) :
    blocks (tr ++ [e]) = e.blocks (blocks tr) := by
  simp [blocks]

@[simp] theorem announced_nil : announced ([] : List (Event α)) = none := rfl

@[simp] theorem announced_snoc (tr : List (Event α)) (e : Event α) :
    announced (tr ++ [e]) = e.announced (announced tr) := by
  simp [announced]

variable {admits : ℕ → ℕ → ℕ → Prop} {tr : List (Event α)} {s : State α} {total : ℕ}
  {held : List (List α)}

/-- What the history says about a state. -/
def State.Matches : State α → List (Event α) → Prop
  | idle, _ => True
  | receiving total held, tr => announced tr = some total ∧ blocks tr = held

theorem Step.matches {s t : State α} {e : Event α} (hs : s.Matches tr) (h : Step admits s e t) :
    t.Matches (tr ++ [e]) := by
  cases h with
  | opened total => exact ⟨by simp [Event.announced], by simp [Event.blocks]⟩
  | block h => exact ⟨by simpa [Event.announced] using hs.1, by simp [Event.blocks, hs.2]⟩
  | closed => trivial
  | aborted => trivial
  | other =>
    cases s with
    | idle => trivial
    | receiving total held =>
      exact ⟨by simpa [Event.announced] using hs.1, by simpa [Event.blocks] using hs.2⟩

/-- **A receiving state is determined by the history**: it holds the blocks since the last opening
and the total announced there. -/
theorem TransferRun.receiving (h : TransferRun admits tr (State.receiving total held)) :
    announced tr = some total ∧ blocks tr = held := by
  have hmatches : (State.receiving total held).Matches tr :=
    Run.invariant (P := fun tr s => s.Matches tr) (fun s hs => hs ▸ trivial)
      (fun _ _ _ _ _ hs hstep => hstep.matches hs) h
  exact hmatches

/-- A receiving state holds at most the announced total. -/
def State.Bounded (admits : ℕ → ℕ → ℕ → Prop) : State α → Prop
  | idle => True
  | receiving total held =>
    (∀ n len, n ≤ total → admits total n len → n + len ≤ total) → held.flatten.length ≤ total

theorem Step.bounded {s t : State α} {e : Event α} (hs : s.Bounded admits)
    (h : Step admits s e t) : t.Bounded admits := by
  cases h with
  | opened total => exact fun _ => Nat.zero_le _
  | @block total held data h =>
    intro hadm
    have hlen : held.flatten.length + data.length ≤ total := hadm _ _ (hs hadm) h
    simpa using hlen
  | closed => trivial
  | aborted => trivial
  | other => exact hs

/-- **A receiver that admits blocks up to the announced total holds no more.** -/
theorem TransferRun.length_le (h : TransferRun admits tr (State.receiving total held))
    (hadm : ∀ n len, n ≤ total → admits total n len → n + len ≤ total) :
    held.flatten.length ≤ total := by
  have hbounded : (State.receiving total held).Bounded admits :=
    Run.invariant (P := fun _ s => s.Bounded admits) (fun s hs => hs ▸ trivial)
      (fun _ _ _ _ _ hs hstep => hstep.bounded hs) h
  exact hbounded hadm

end BlockTransfer
