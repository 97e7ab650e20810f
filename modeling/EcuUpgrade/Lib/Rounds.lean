import EcuUpgrade.Lib.Runs
import Mathlib.Algebra.Order.Ring.Nat

/-!
# Progress in rounds

A system does a bounded amount of work, and its states are described by parameters. An action that
is of no use changes no parameter, and some action is of use as long as work is left. The order of
the actions does not matter then: the work is done after as many rounds as there is work, if every
round consists of the actions that may be of use, in any order and with any others between them.

## Main definitions

* `Advances`: an action is of no use, or it reduces the work that is left.

## Main results

* `Advances.done_of_rounds`: the work is done after sufficiently many rounds.
-/

namespace Rounds

open Runs

variable {σ κ π : Type*}

/-- The states that `inv p` describes leave the work `left p`; some action `helps` as long as there
is any, and an action that does not reduce it leaves the description as it is and does not help. -/
structure Advances (step : σ → κ → σ → Prop) (inv : π → σ → Prop) (left : π → ℕ)
    (helps : π → κ → Prop) : Prop where
  advance {p s a t} : inv p s → step s a t →
    inv p t ∧ ¬helps p a ∨ ∃ q, inv q t ∧ left q < left p
  exists_helps {p s} : inv p s → 0 < left p → ∃ a, helps p a

variable {step : σ → κ → σ → Prop} {inv : π → σ → Prop} {left : π → ℕ} {helps : π → κ → Prop}
  {p : π} {s t : σ} {tr : List κ} {a : κ}

/-- No action makes more work. -/
theorem Advances.path (h : Advances step inv left helps) (hs : inv p s) (hp : Path step s tr t) :
    ∃ q, inv q t ∧ left q ≤ left p := by
  induction hp generalizing p with
  | nil s => exact ⟨p, hs, le_rfl⟩
  | cons hstep _ ih =>
    rcases h.advance hs hstep with ⟨hsame, -⟩ | ⟨q, hq, hlt⟩
    · exact ih hsame
    · obtain ⟨q', hq', hle⟩ := ih hq
      exact ⟨q', hq', hle.trans hlt.le⟩

/-- An action that helps reduces the work, unless it was reduced before. -/
theorem Advances.path_of_mem (h : Advances step inv left helps) (hs : inv p s) (ha : helps p a)
    (hmem : a ∈ tr) (hp : Path step s tr t) : ∃ q, inv q t ∧ left q < left p := by
  induction hp generalizing p with
  | nil s => cases hmem
  | cons hstep hrest ih =>
    rcases h.advance hs hstep with ⟨hsame, hno⟩ | ⟨q, hq, hlt⟩
    · refine ih hsame ha ((List.mem_cons.1 hmem).resolve_left ?_)
      rintro rfl
      exact hno ha
    · obtain ⟨q', hq', hle⟩ := h.path hq hrest
      exact ⟨q', hq', hle.trans_lt hlt⟩

/-- **The work is done after as many rounds as there is work.** -/
theorem Advances.done_of_rounds (h : Advances step inv left helps) {rounds : List (List κ)}
    (hrounds : ∀ r ∈ rounds, ∀ p a, helps p a → a ∈ r) (hs : inv p s)
    (hleft : left p ≤ rounds.length) (hp : Path step s rounds.flatten t) :
    ∃ q, inv q t ∧ left q = 0 := by
  induction rounds generalizing p s with
  | nil =>
    obtain ⟨q, hq, hle⟩ := h.path hs hp
    exact ⟨q, hq, Nat.le_zero.1 (hle.trans hleft)⟩
  | cons r rounds ih =>
    rw [List.flatten_cons, Path.append_iff] at hp
    obtain ⟨u, hround, hrest⟩ := hp
    have hothers := fun r' hr' => hrounds r' (List.mem_cons_of_mem r hr')
    have hle : ∃ q, inv q u ∧ left q ≤ rounds.length := by
      rcases Nat.eq_zero_or_pos (left p) with hzero | hpos
      · obtain ⟨q, hq, hle⟩ := h.path hs hround
        exact ⟨q, hq, by omega⟩
      · obtain ⟨a, ha⟩ := h.exists_helps hs hpos
        obtain ⟨q, hq, hlt⟩ := h.path_of_mem hs ha (hrounds r List.mem_cons_self p a ha) hround
        rw [List.length_cons] at hleft
        exact ⟨q, hq, by omega⟩
    obtain ⟨q, hq, hle⟩ := hle
    exact ih hothers hq hle hrest

end Rounds
