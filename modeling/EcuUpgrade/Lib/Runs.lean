import Mathlib.Data.List.Basic

/-!
# Runs of labelled transition relations

A system is a predicate `start` on its initial states and a relation `step s l t`, read "the
step labelled `l` leads from `s` to `t`". `Run start step tr s` says that some run from an
initial state performs exactly the labels `tr`, in order, and ends in `s`. Labels are kept, so
that a property of a run may speak about its history.

## Main definitions

* `Run`: a run from an initial state, with the list of its labels.
* `Path`: a run between two given states.
* `Everywhere`: every label of a history stands in a relation to the history before it.
* `Since`: what happened in a history and was not undone.
* `follow`: the steps that a schedule prescribes.

## Main results

* `Run.invariant`: a property of history and state that holds initially and is kept by every
  step holds at the end of every run.
* `Run.everywhere`: what every step of every run has, every label of a history has.
* `Run.append_iff`: a run through a concatenation of labels splits at the state reached in
  between.
* `Run.simulates`: a forward simulation maps runs to runs.
-/

namespace Runs

variable {σ τ ι κ : Type*}

/-- A run from an initial state, with its labels in the order in which they were performed. -/
inductive Run (start : σ → Prop) (step : σ → ι → σ → Prop) : List ι → σ → Prop
  | start {s : σ} (h : start s) : Run start step [] s
  | snoc {tr : List ι} {s t : σ} {l : ι} (h : Run start step tr s) (hs : step s l t) :
      Run start step (tr ++ [l]) t

/-- A run between two given states. -/
inductive Path (step : σ → ι → σ → Prop) : σ → List ι → σ → Prop
  | nil (s : σ) : Path step s [] s
  | cons {s t u : σ} {l : ι} {tr : List ι} (hs : step s l t) (h : Path step t tr u) :
      Path step s (l :: tr) u

variable {start : σ → Prop} {step : σ → ι → σ → Prop}

theorem Path.snoc {s t u : σ} {tr : List ι} {l : ι} (h : Path step s tr t) (hs : step t l u) :
    Path step s (tr ++ [l]) u := by
  induction h with
  | nil s => exact .cons hs (.nil u)
  | cons hs' _ ih => exact .cons hs' (ih hs)

theorem Path.mono {step' : σ → ι → σ → Prop} (himp : ∀ s l t, step s l t → step' s l t)
    {s t : σ} {tr : List ι} (h : Path step s tr t) : Path step' s tr t := by
  induction h with
  | nil s => exact .nil s
  | cons hs _ ih => exact .cons (himp _ _ _ hs) ih

theorem Run.append {s t : σ} {tr tr' : List ι} (h : Run start step tr s)
    (hp : Path step s tr' t) : Run start step (tr ++ tr') t := by
  induction hp generalizing tr with
  | nil s => simpa using h
  | @cons s t u l tr' hs _ ih => simpa using ih (h.snoc hs)

/-- Every run from an initial state is a path from one. -/
theorem Run.exists_path {tr : List ι} {s : σ} (h : Run start step tr s) :
    ∃ s₀, start s₀ ∧ Path step s₀ tr s := by
  induction h with
  | start h => exact ⟨_, h, .nil _⟩
  | snoc _ hs ih =>
    obtain ⟨s₀, h₀, hp⟩ := ih
    exact ⟨s₀, h₀, hp.snoc hs⟩

theorem Path.append_iff {s u : σ} {tr tr' : List ι} :
    Path step s (tr ++ tr') u ↔ ∃ t, Path step s tr t ∧ Path step t tr' u := by
  induction tr generalizing s with
  | nil =>
    refine ⟨fun h => ⟨s, .nil s, h⟩, ?_⟩
    rintro ⟨t, ⟨⟩, h⟩
    exact h
  | cons l tr ih =>
    constructor
    · rintro (_ | ⟨hs, h⟩)
      obtain ⟨t, h₁, h₂⟩ := ih.1 h
      exact ⟨t, .cons hs h₁, h₂⟩
    · rintro ⟨t, _ | ⟨hs, h₁⟩, h₂⟩
      exact .cons hs (ih.2 ⟨t, h₁, h₂⟩)

/-- A run through `tr ++ tr'` passes through a state that `tr` reaches. -/
theorem Run.append_iff {u : σ} {tr tr' : List ι} :
    Run start step (tr ++ tr') u ↔ ∃ t, Run start step tr t ∧ Path step t tr' u := by
  constructor
  · intro h
    obtain ⟨s₀, h₀, hp⟩ := h.exists_path
    obtain ⟨t, h₁, h₂⟩ := Path.append_iff.1 hp
    exact ⟨t, (Run.start h₀).append h₁, h₂⟩
  · rintro ⟨t, h₁, h₂⟩
    exact h₁.append h₂

/-- The last step of a run. -/
theorem Run.snoc_iff {u : σ} {tr : List ι} {l : ι} :
    Run start step (tr ++ [l]) u ↔ ∃ t, Run start step tr t ∧ step t l u := by
  rw [Run.append_iff]
  constructor
  · rintro ⟨t, h, _ | ⟨hs, ⟨⟩⟩⟩
    exact ⟨t, h, hs⟩
  · rintro ⟨t, h, hs⟩
    exact ⟨t, h, .cons hs (.nil u)⟩

/-- **Invariants of runs.** A property of the history and the state that holds initially and is
kept by every step holds at the end of every run. -/
theorem Run.invariant {P : List ι → σ → Prop} (h₀ : ∀ s, start s → P [] s)
    (hstep : ∀ tr s l t, Run start step tr s → P tr s → step s l t → P (tr ++ [l]) t)
    {tr : List ι} {s : σ} (h : Run start step tr s) : P tr s := by
  induction h with
  | start h => exact h₀ _ h
  | snoc h hs ih => exact hstep _ _ _ _ h ih hs

/-- The labels of the steps that a schedule prescribes, and the state after them. -/
def follow (next : σ → κ → Option (ι × σ)) (s : σ) : List κ → Option (List ι × σ)
  | [] => some ([], s)
  | input :: rest => do
    let (l, t) ← next s input
    let (tr, u) ← follow next t rest
    some (l :: tr, u)

/-- Following a schedule gives a path, if each prescribed step is one. -/
theorem follow_path (next : σ → κ → Option (ι × σ))
    (hnext : ∀ s input l t, next s input = some (l, t) → step s l t) {s u : σ} {inputs : List κ}
    {tr : List ι} (h : follow next s inputs = some (tr, u)) : Path step s tr u := by
  induction inputs generalizing s tr with
  | nil =>
    cases h
    exact .nil _
  | cons input rest ih =>
    simp only [follow, Option.bind_eq_bind, Option.bind_eq_some_iff] at h
    obtain ⟨⟨l, t⟩, hstep, ⟨tr', u'⟩, hrest, heq⟩ := h
    cases heq
    exact .cons (hnext _ _ _ _ hstep) (ih hrest)

/-- Every label of a history stands in a relation to the history before it. -/
def Everywhere (P : List ι → ι → Prop) (tr : List ι) : Prop :=
  ∀ pre l post, tr = pre ++ l :: post → P pre l

theorem everywhere_nil (P : List ι → ι → Prop) : Everywhere P [] := by
  intro pre l post h
  simp at h

theorem everywhere_snoc {P : List ι → ι → Prop} {tr : List ι} {l : ι} :
    Everywhere P (tr ++ [l]) ↔ Everywhere P tr ∧ P tr l := by
  constructor
  · intro h
    refine ⟨fun pre l' post heq => h pre l' (post ++ [l]) ?_, h tr l [] rfl⟩
    rw [heq, List.append_assoc, List.cons_append]
  · rintro ⟨htr, hl⟩ pre l' post heq
    rcases List.eq_nil_or_concat post with rfl | ⟨post', l'', rfl⟩
    · obtain ⟨rfl, hlast⟩ := List.append_inj' heq rfl
      obtain rfl := (List.cons.inj hlast).1
      exact hl
    · have hsplit : tr ++ [l] = (pre ++ l' :: post') ++ [l''] := by
        rw [heq, List.append_assoc, List.cons_append, List.concat_eq_append]
      exact htr pre l' post' (List.append_inj' hsplit rfl).1

theorem everywhere_congr {P Q : List ι → ι → Prop} {tr : List ι}
    (h : Everywhere (fun pre l => P pre l ↔ Q pre l) tr) : Everywhere P tr ↔ Everywhere Q tr := by
  constructor
  · intro hP pre l post heq
    exact (h pre l post heq).1 (hP pre l post heq)
  · intro hQ pre l post heq
    exact (h pre l post heq).2 (hQ pre l post heq)

/-- Some label of a history has the property `p`, and no label behind it has the property `q`. -/
def Since (p q : ι → Prop) (tr : List ι) : Prop :=
  ∃ pre l post, tr = pre ++ l :: post ∧ p l ∧ ∀ l' ∈ post, ¬q l'

theorem not_since_nil (p q : ι → Prop) : ¬Since p q [] := by
  rintro ⟨pre, l, post, heq, -⟩
  simp at heq

theorem since_snoc {p q : ι → Prop} {tr : List ι} {l : ι} :
    Since p q (tr ++ [l]) ↔ p l ∨ ¬q l ∧ Since p q tr := by
  constructor
  · rintro ⟨pre, l', post, heq, hp, hq⟩
    rcases List.eq_nil_or_concat post with rfl | ⟨post', l'', rfl⟩
    · obtain ⟨-, hlast⟩ := List.append_inj' heq rfl
      obtain rfl := (List.cons.inj hlast).1
      exact .inl hp
    · rw [List.concat_eq_append] at heq hq
      have hsplit : tr ++ [l] = (pre ++ l' :: post') ++ [l''] := by
        rw [heq, List.append_assoc, List.cons_append]
      obtain ⟨rfl, hlast⟩ := List.append_inj' hsplit rfl
      obtain rfl := (List.cons.inj hlast).1
      exact .inr ⟨hq l (by simp), pre, l', post', rfl, hp, fun m hm => hq m (by simp [hm])⟩
  · rintro (hp | ⟨hl, pre, l', post, rfl, hp, hq⟩)
    · exact ⟨tr, l, [], rfl, hp, by simp⟩
    · refine ⟨pre, l', post ++ [l], by simp, hp, fun m hm => ?_⟩
      rcases List.mem_append.1 hm with hm | hm
      · exact hq m hm
      · exact List.mem_singleton.1 hm ▸ hl

/-- The last label of a history that has a property. -/
theorem exists_last {p : ι → Prop} {tr : List ι} (h : ∃ l ∈ tr, p l) :
    ∃ pre l post, tr = pre ++ l :: post ∧ p l ∧ ∀ l' ∈ post, ¬p l' := by
  induction tr with
  | nil =>
    obtain ⟨l, hmem, -⟩ := h
    cases hmem
  | cons l tr ih =>
    by_cases htr : ∃ l ∈ tr, p l
    · obtain ⟨pre, l', post, rfl, hl', hpost⟩ := ih htr
      exact ⟨l :: pre, l', post, rfl, hl', hpost⟩
    · obtain ⟨l', hmem, hl'⟩ := h
      rcases List.mem_cons.1 hmem with rfl | hmem
      · exact ⟨[], l', tr, rfl, hl', fun l'' hmem hl'' => htr ⟨l'', hmem, hl''⟩⟩
      · exact absurd ⟨l', hmem, hl'⟩ htr

/-- What every step of every run has, every label of a history has. -/
theorem Run.everywhere {P : List ι → ι → Prop}
    (hstep : ∀ tr s l t, Run start step tr s → step s l t → P tr l)
    {tr : List ι} {s : σ} (h : Run start step tr s) : Everywhere P tr := by
  induction h with
  | start h => exact everywhere_nil P
  | snoc h hs ih => exact everywhere_snoc.2 ⟨ih, hstep _ _ _ _ h hs⟩

/-- **Forward simulation.** If `R` relates the initial states of two systems and every step of
the first is matched by a step of the second with the label `f` gives it, then the runs of the
first are matched by runs of the second. -/
theorem Run.simulates {start' : τ → Prop} {step' : τ → κ → τ → Prop} {R : σ → τ → Prop}
    {f : ι → κ} (h₀ : ∀ s, start s → ∃ s', start' s' ∧ R s s')
    (hstep : ∀ s s' l t, R s s' → step s l t → ∃ t', step' s' (f l) t' ∧ R t t')
    {tr : List ι} {s : σ} (h : Run start step tr s) :
    ∃ s', Run start' step' (tr.map f) s' ∧ R s s' := by
  induction h with
  | start h =>
    obtain ⟨s', h', hR⟩ := h₀ _ h
    exact ⟨s', .start h', hR⟩
  | snoc _ hs ih =>
    obtain ⟨s', h', hR⟩ := ih
    obtain ⟨t', ht', hR'⟩ := hstep _ _ _ _ hR hs
    exact ⟨t', by simpa using h'.snoc ht', hR'⟩

end Runs
