import Mathlib.Data.List.Basic
import Mathlib.Tactic.Common

/-!
# Programs with exceptions and loops

A program works on a state, may raise an exception, and keeps what it did to the state when it
raises. Loops are given a number of rounds; a program whose loops do not end within theirs has no
outcome. The rules of partial correctness below speak about the outcomes there are.

## Main definitions

* `Prog`: the programs, with `get`, `modify`, `raise`, `tryCatch`, `tryFinally`, `loop` and
  `forReturn`.
* `Total`: the programs with an outcome from every state.
* `Extends e x y`: `y` ends as `x` does, unless `x` raises `e`.
* `Triple P x Q E`: from a state with `P`, `x` returns to a state with `Q` or raises to one with
  `E`, if it ends.

## Main results

* `bind_eq_ok_iff`: the runs of a sequence that return.
* `Triple.bind`, `Triple.tryCatch`, `Triple.loop`, `Triple.forM`: the rules.
* `loop_eq_ok`: a loop that ended ended in a last round.
-/

namespace Programs

universe u v w

/-- A program on a state `σ` that may raise an `ε` and returns an `α`. -/
def Prog (σ : Type u) (ε : Type v) (α : Type w) : Type (max u v w) :=
  σ → Option (Except ε α × σ)

variable {σ : Type u} {ε : Type v} {α β : Type w}

namespace Prog

/-- `x`, then `f` with what `x` returned. -/
protected def bind (x : Prog σ ε α) (f : α → Prog σ ε β) : Prog σ ε β := fun s =>
  match x s with
  | none => none
  | some (.error e, t) => some (.error e, t)
  | some (.ok a, t) => f a t

instance : Monad (Prog σ ε) where
  pure a := fun s => some (.ok a, s)
  bind := Prog.bind

/-- Reading the state. -/
def get : Prog σ ε σ := fun s => some (.ok s, s)

/-- Changing the state. -/
def modify (g : σ → σ) : Prog σ ε PUnit := fun s => some (.ok ⟨⟩, g s)

/-- Raising an exception. -/
def raise (e : ε) : Prog σ ε α := fun s => some (.error e, s)

/-- The outcome of a step that has no effect on the state. -/
def ofExcept (r : Except ε α) : Prog σ ε α := fun s => some (r, s)

/-- `x`, and `handler` if it raises. -/
def tryCatch (x : Prog σ ε α) (handler : ε → Prog σ ε α) : Prog σ ε α := fun s =>
  match x s with
  | some (.error e, t) => handler e t
  | r => r

/-- `x`, and then `finalizer` in any case. What `finalizer` raises replaces the outcome of `x`. -/
def tryFinally (x : Prog σ ε α) (finalizer : Prog σ ε β) : Prog σ ε α := fun s =>
  match x s with
  | none => none
  | some (r, t) =>
    match finalizer t with
    | none => none
    | some (.error e, u) => some (.error e, u)
    | some (.ok _, u) => some (r, u)

/-- Rounds of `body` until one returns a value, at most `fuel` of them. -/
def loop : ℕ → Prog σ ε (Option α) → Prog σ ε α
  | 0, _ => fun _ => none
  | fuel + 1, body => do
    match ← body with
    | some a => pure a
    | none => loop fuel body

/-- A loop over a list whose body may return from the whole function. -/
def forReturn {γ : Type*} (body : γ → Prog σ ε (Option α)) : List γ → Prog σ ε (Option α)
  | [] => pure none
  | x :: l => do
    match ← body x with
    | some a => pure (some a)
    | none => forReturn body l

end Prog

open Prog

/-! ### Outcomes -/

variable {x : Prog σ ε α} {f : α → Prog σ ε β} {s t : σ} {a : α} {b : β} {e : ε}

@[simp] theorem pure_apply (a : α) (s : σ) : (pure a : Prog σ ε α) s = some (.ok a, s) := rfl

@[simp] theorem get_apply (s : σ) : (get : Prog σ ε σ) s = some (.ok s, s) := rfl

@[simp] theorem modify_apply (g : σ → σ) (s : σ) :
    (modify g : Prog σ ε PUnit) s = some (.ok ⟨⟩, g s) := rfl

@[simp] theorem raise_apply (e : ε) (s : σ) : (raise e : Prog σ ε α) s = some (.error e, s) := rfl

@[simp] theorem ofExcept_apply (r : Except ε α) (s : σ) :
    (ofExcept r : Prog σ ε α) s = some (r, s) := rfl

theorem bind_apply (x : Prog σ ε α) (f : α → Prog σ ε β) (s : σ) :
    (x >>= f) s = match x s with
      | none => none
      | some (.error e, t) => some (.error e, t)
      | some (.ok a, t) => f a t := rfl

theorem bind_of_ok (h : x s = some (.ok a, t)) : (x >>= f) s = f a t := by
  rw [bind_apply, h]

theorem bind_of_error (h : x s = some (.error e, t)) : (x >>= f) s = some (.error e, t) := by
  rw [bind_apply, h]

/-- **A sequence returns** if and only if both parts do. -/
theorem bind_eq_ok_iff : (x >>= f) s = some (.ok b, t) ↔
    ∃ a u, x s = some (.ok a, u) ∧ f a u = some (.ok b, t) := by
  constructor
  · intro h
    rw [bind_apply] at h
    split at h
    · cases h
    · cases h
    · next a u hx => exact ⟨a, u, hx, h⟩
  · rintro ⟨a, u, hx, hf⟩
    rw [bind_of_ok hx, hf]

/-- A program with a finalizer returns if and only if both of them do. -/
theorem tryFinally_eq_ok_iff {y : Prog σ ε β} :
    x.tryFinally y s = some (.ok a, t) ↔
      ∃ u b, x s = some (.ok a, u) ∧ y u = some (.ok b, t) := by
  unfold Prog.tryFinally
  constructor
  · intro h
    split at h
    · cases h
    · next r u hx =>
      split at h
      · cases h
      · cases h
      · next b v hy =>
        obtain ⟨rfl, rfl⟩ : r = .ok a ∧ v = t := by simpa using h
        exact ⟨u, b, hx, hy⟩
  · rintro ⟨u, b, hx, hy⟩
    rw [hx]
    dsimp only
    rw [hy]

/-- A handler that raises again changes nothing. -/
theorem tryCatch_raise : (x.tryCatch fun e => raise e) = x := by
  funext s
  unfold Prog.tryCatch
  split
  · next h => exact h.symm
  · rfl

theorem loop_succ (fuel : ℕ) (body : Prog σ ε (Option α)) : loop (fuel + 1) body =
    body >>= fun r => match r with
      | some a => pure a
      | none => loop fuel body := rfl

/-- A loop whose first round returns a value ends with it. -/
theorem loop_of_some {fuel : ℕ} {body : Prog σ ε (Option α)}
    (h : body s = some (.ok (some a), t)) : loop (fuel + 1) body s = some (.ok a, t) := by
  exact bind_of_ok h

/-- A loop whose first round returns nothing goes on. -/
theorem loop_of_none {fuel : ℕ} {body : Prog σ ε (Option α)}
    (h : body s = some (.ok none, t)) : loop (fuel + 1) body s = loop fuel body t := by
  exact bind_of_ok h

/-- A loop over a list returns if every round does; `I` speaks about the elements that are done. -/
theorem forM_returns {γ : Type*} {body : γ → Prog σ ε PUnit} {I : List γ → σ → Prop} (l : List γ)
    (hbody : ∀ done x rest s, l = done ++ x :: rest → I done s →
      ∃ t, body x s = some (.ok ⟨⟩, t) ∧ I (done ++ [x]) t)
    (hs : I [] s) : ∃ t, forM l body s = some (.ok ⟨⟩, t) ∧ I l t := by
  suffices hsuffix : ∀ rest done s, l = done ++ rest → I done s →
      ∃ t, forM rest body s = some (.ok ⟨⟩, t) ∧ I l t from hsuffix l [] s rfl hs
  intro rest
  induction rest with
  | nil =>
    rintro done s rfl hs
    rw [List.append_nil]
    exact ⟨s, rfl, hs⟩
  | cons x rest ih =>
    intro done s hl hs
    obtain ⟨u, hx, hu⟩ := hbody done x rest s hl hs
    obtain ⟨t, hrest, ht⟩ := ih (done ++ [x]) u (by simpa using hl) hu
    rw [List.forM_cons, bind_of_ok hx]
    exact ⟨t, hrest, ht⟩

theorem eq_length_of_range_eq {n i : ℕ} {done rest : List ℕ}
    (h : List.range n = done ++ i :: rest) : i = done.length ∧ i < n := by
  have hget : (List.range n)[done.length]? = some i := by simp [h]
  obtain ⟨hlt, heq⟩ := List.getElem?_eq_some_iff.1 hget
  rw [List.getElem_range] at heq
  rw [List.length_range] at hlt
  omega

/-- A counting loop returns if every round does. -/
theorem forM_range_returns {body : ℕ → Prog σ ε PUnit} {I : ℕ → σ → Prop} (n : ℕ)
    (hbody : ∀ i s, i < n → I i s → ∃ t, body i s = some (.ok ⟨⟩, t) ∧ I (i + 1) t)
    (hs : I 0 s) : ∃ t, forM (List.range n) body s = some (.ok ⟨⟩, t) ∧ I n t := by
  obtain ⟨t, ht, hI⟩ := forM_returns (I := fun done => I done.length) (List.range n)
    (fun done i rest s hl hdone => by
      obtain ⟨rfl, hi⟩ := eq_length_of_range_eq hl
      simpa using hbody _ s hi hdone) hs
  rw [List.length_range] at hI
  exact ⟨t, ht, hI⟩

/-- A run that can be evaluated has an outcome. -/
theorem exists_outcome (x : Prog σ ε α) (s : σ) (P : Except ε α → σ → Prop)
    [∀ r t, Decidable (P r t)] (h : (x s).any (fun p => decide (P p.1 p.2)) = true) :
    ∃ r t, x s = some (r, t) ∧ P r t := by
  obtain ⟨p, hx, hp⟩ := (Option.any_eq_true _ _).1 h
  exact ⟨p.1, p.2, hx, of_decide_eq_true hp⟩

/-! ### Total programs -/

/-- The program has an outcome from every state. -/
def Total (x : Prog σ ε α) : Prop := ∀ s, ∃ r t, x s = some (r, t)

theorem Total.pure (a : α) : Total (pure a : Prog σ ε α) := fun s => ⟨.ok a, s, rfl⟩

theorem Total.get : Total (get : Prog σ ε σ) := fun s => ⟨.ok s, s, rfl⟩

theorem Total.modify (g : σ → σ) : Total (modify g : Prog σ ε PUnit) :=
  fun s => ⟨.ok ⟨⟩, g s, rfl⟩

theorem Total.raise (e : ε) : Total (raise e : Prog σ ε α) := fun s => ⟨.error e, s, rfl⟩

theorem Total.bind (hx : Total x) (hf : ∀ a, Total (f a)) : Total (x >>= f) := by
  intro s
  obtain ⟨r, t, h⟩ := hx s
  cases r with
  | ok a => rw [bind_of_ok h]; exact hf a t
  | error e => exact ⟨.error e, t, bind_of_error h⟩

theorem Total.ite {y : Prog σ ε α} {p : Prop} [Decidable p] (hx : Total x) (hy : Total y) :
    Total (if p then x else y) := by
  split
  · exact hx
  · exact hy

theorem Total.tryCatch {handler : ε → Prog σ ε α} (hx : Total x) (hh : ∀ e, Total (handler e)) :
    Total (x.tryCatch handler) := by
  intro s
  obtain ⟨r, t, h⟩ := hx s
  unfold Prog.tryCatch
  rw [h]
  cases r with
  | ok a => exact ⟨.ok a, t, rfl⟩
  | error e => exact hh e t

theorem Total.forM {γ : Type*} {body : γ → Prog σ ε PUnit} (h : ∀ x, Total (body x))
    (l : List γ) : Total (ForM.forM l body) := by
  induction l with
  | nil => exact .pure _
  | cons x l ih =>
    rw [List.forM_cons]
    exact (h x).bind fun _ => ih

/-! ### Programs that end alike unless an exception is raised -/

/-- `y` ends as `x` does, unless `x` raises `e`. -/
def Extends (e : ε) (x y : Prog σ ε α) : Prop :=
  ∀ s r t, r ≠ .error e → x s = some (r, t) → y s = some (r, t)

theorem Extends.refl (e : ε) (x : Prog σ ε α) : Extends e x x := fun _ _ _ _ h => h

theorem Extends.bind {x y : Prog σ ε α} {f g : α → Prog σ ε β} (h : Extends e x y)
    (hf : ∀ a, Extends e (f a) (g a)) : Extends e (x >>= f) (y >>= g) := by
  intro s r t hr hx
  rw [bind_apply] at hx
  split at hx
  · cases hx
  · next e' u hxs =>
    obtain ⟨rfl, rfl⟩ : .error e' = r ∧ u = t := by simpa using hx
    have hne : (.error e' : Except ε α) ≠ .error e := fun heq => hr (by cases heq; rfl)
    exact bind_of_error (h s _ u hne hxs)
  · next a u hxs =>
    rw [bind_of_ok (h s (.ok a) u (by simp) hxs)]
    exact hf a u r t hr hx

theorem Extends.ite {x y x' y' : Prog σ ε α} {p : Prop} [Decidable p] (hx : Extends e x y)
    (hx' : Extends e x' y') : Extends e (if p then x else x') (if p then y else y') := by
  split
  · exact hx
  · exact hx'

/-! ### Partial correctness -/

/-- The outcome of a program satisfies `Q` if it returned and `E` if it raised. -/
def Outcome (Q : α → σ → Prop) (E : ε → σ → Prop) : Except ε α → σ → Prop
  | .ok a, t => Q a t
  | .error e, t => E e t

/-- **Partial correctness.** -/
def Triple (P : σ → Prop) (x : Prog σ ε α) (Q : α → σ → Prop) (E : ε → σ → Prop) : Prop :=
  ∀ s, P s → ∀ r t, x s = some (r, t) → Outcome Q E r t

variable {P : σ → Prop} {Q Q' : α → σ → Prop} {R : β → σ → Prop} {E E' : ε → σ → Prop}

theorem Triple.ok (h : Triple P x Q E) (hs : P s) (hx : x s = some (.ok a, t)) : Q a t :=
  h s hs _ t hx

theorem Triple.error (h : Triple P x Q E) (hs : P s) (hx : x s = some (.error e, t)) : E e t :=
  h s hs _ t hx

theorem Triple.pure (a : α) (h : ∀ s, P s → Q a s) : Triple P (pure a) Q E := by
  rintro s hs r t ⟨⟩
  exact h s hs

theorem Triple.raise (e : ε) (h : ∀ s, P s → E e s) : Triple P (raise e : Prog σ ε α) Q E := by
  rintro s hs r t ⟨⟩
  exact h s hs

/-- The rule of reading the state. -/
theorem Triple.read {γ : Type u} {f : σ → Prog σ ε γ} {Q : γ → σ → Prop}
    (h : ∀ u, P u → Triple (· = u) (f u) Q E) :
    Triple P (get >>= f) Q E :=
  fun s hs r t hx => h s hs s rfl r t hx

theorem Triple.modify (g : σ → σ) {Q : PUnit → σ → Prop} (h : ∀ s, P s → Q ⟨⟩ (g s)) :
    Triple P (modify g : Prog σ ε PUnit) Q E := by
  rintro s hs r t ⟨⟩
  exact h s hs

/-- What a triple says about one state. -/
theorem Triple.at (h : Triple P x Q E) (hs : P s) : Triple (· = s) x Q E := by
  rintro t rfl
  exact h t hs

/-- The rule of consequence. -/
theorem Triple.mono {P' : σ → Prop} (h : Triple P x Q E) (hP : ∀ s, P' s → P s)
    (hQ : ∀ a s, Q a s → Q' a s) (hE : ∀ e s, E e s → E' e s) : Triple P' x Q' E' := by
  intro s hs r t hx
  have hout : Outcome Q E r t := h s (hP s hs) r t hx
  cases r with
  | ok a => exact hQ a t hout
  | error e => exact hE e t hout

/-- The rule of sequences. -/
theorem Triple.bind (hx : Triple P x Q E) (hf : ∀ a, Triple (Q a) (f a) R E) :
    Triple P (x >>= f) R E := by
  intro s hs r t h
  rw [bind_apply] at h
  split at h
  · cases h
  · next e u hxs =>
    obtain ⟨rfl, rfl⟩ : .error e = r ∧ u = t := by simpa using h
    exact hx.error hs hxs
  · next a u hxs => exact hf a u (hx.ok hs hxs) r t h

/-- The rule of exception handlers. -/
theorem Triple.tryCatch {handler : ε → Prog σ ε α} (hx : Triple P x Q E)
    (hh : ∀ e, Triple (E e) (handler e) Q E') : Triple P (x.tryCatch handler) Q E' := by
  intro s hs r t h
  unfold Prog.tryCatch at h
  split at h
  · next e u hxs => exact hh e u (hx.error hs hxs) r t h
  · next hne =>
    cases r with
    | ok a => exact hx.ok hs h
    | error e => exact absurd h (hne e t)

/-- After a round of a loop, `Q` holds if it returned a value, and the invariant otherwise. -/
def AfterRound (I : σ → Prop) (Q : α → σ → Prop) : Option α → σ → Prop
  | some a, t => Q a t
  | none, t => I t

/-- The rule of loops: an invariant that every round without a value keeps. -/
theorem Triple.loop {body : Prog σ ε (Option α)} {I : σ → Prop}
    (hbody : Triple I body (AfterRound I Q) E) (fuel : ℕ) : Triple I (loop fuel body) Q E := by
  induction fuel with
  | zero =>
    intro s _ r t h
    cases h
  | succ fuel ih =>
    rw [loop_succ]
    refine hbody.bind fun r => ?_
    cases r with
    | some a => exact .pure a fun _ h => h
    | none => exact ih

/-- The rule of loops over a list: an invariant that speaks about the elements that are done. -/
theorem Triple.forM {γ : Type*} {body : γ → Prog σ ε PUnit} {I : List γ → σ → Prop} (l : List γ)
    (hbody : ∀ done x rest, l = done ++ x :: rest →
      Triple (I done) (body x) (fun _ => I (done ++ [x])) E) :
    Triple (I []) (ForM.forM l body) (fun _ => I l) E := by
  suffices hsuffix : ∀ rest done, l = done ++ rest →
      Triple (I done) (ForM.forM rest body) (fun _ => I l) E from hsuffix l [] rfl
  intro rest
  induction rest with
  | nil =>
    rintro done rfl
    rw [List.append_nil]
    exact .pure _ fun _ h => h
  | cons x rest ih =>
    intro done hl
    rw [List.forM_cons]
    exact (hbody done x rest hl).bind fun _ => ih (done ++ [x]) (by simpa using hl)

/-- The rule of counting loops. -/
theorem Triple.forM_range {body : ℕ → Prog σ ε PUnit} {I : ℕ → σ → Prop} (n : ℕ)
    (hbody : ∀ i < n, Triple (I i) (body i) (fun _ => I (i + 1)) E) :
    Triple (I 0) (ForM.forM (List.range n) body) (fun _ => I n) E := by
  have h := Triple.forM (I := fun done => I done.length) (E := E) (List.range n)
    (fun done i rest hl => by
      obtain ⟨rfl, hi⟩ := eq_length_of_range_eq hl
      simpa using hbody _ hi)
  rwa [List.length_range] at h

end Programs
