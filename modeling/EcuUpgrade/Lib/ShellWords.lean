import Mathlib.Data.List.Induction

/-!
# Words of a command line

A shell takes a command line apart into words. Blanks separate words; a backslash quotes the next
character, single quotes quote everything between them, and double quotes everything but
expansions; quotes are removed. A character that starts an expansion or an operator ends the
reading: the line is then more than a command with fixed words. The characters of the alphabet are
given by their kinds, so that nothing depends on a character set.

## Main definitions

* `Kind`: what a character does where it is not quoted.
* `Reader`: the reading of a line up to some character.
* `words`: the words of a line that is a command with fixed words.
* `Fixed`: the words that can be written without quotes.

## Main results

* `words_intercalate_iff`: **words joined by single blanks are read back if and only if each can be
  written without quotes.**
-/

namespace ShellWords

variable {α : Type*}

/-- What a character does where it is not quoted. -/
inductive Kind
  | plain
  | blank
  | newline
  | operator
  | backslash
  | singleQuote
  | doubleQuote
  /-- Starts an expansion, in double quotes too. -/
  | dollar
  /-- Starts a pattern for the names of files. -/
  | pattern
  /-- Starts a comment or an expansion, if it is the first of a word. -/
  | leading
  deriving DecidableEq

/-- How the next character is read. -/
inductive Mode (α : Type*)
  | unquoted
  | escaped
  | single
  | double
  /-- In double quotes, behind the backslash `c`. -/
  | doubleEscaped (c : α)

/-- The reading of a line: the words that are complete, what has been read of a word that is not,
and how the next character is read. -/
structure Reader (α : Type*) where
  words : List (List α)
  word : Option (List α)
  mode : Mode α

namespace Reader

/-- The reading of a line from its start. -/
def start : Reader α := ⟨[], none, .unquoted⟩

/-- Characters appended to the word. -/
def push (s : Reader α) (cs : List α) (mode : Mode α) : Reader α :=
  { s with word := some (s.word.getD [] ++ cs), mode := mode }

/-- The word completed, if there is one. -/
def complete (s : Reader α) : Reader α := ⟨s.words ++ s.word.toList, none, .unquoted⟩

/-- The next character is read. -/
def step (kind : α → Kind) (s : Reader α) (c : α) : Option (Reader α) :=
  match s.mode with
  | .unquoted =>
    match kind c with
    | .plain => some (s.push [c] .unquoted)
    | .leading => if s.word = none then none else some (s.push [c] .unquoted)
    | .blank => some s.complete
    | .backslash => some { s with mode := .escaped }
    | .singleQuote => some (s.push [] .single)
    | .doubleQuote => some (s.push [] .double)
    | .newline | .operator | .dollar | .pattern => none
  | .escaped =>
    match kind c with
    | .newline => some { s with mode := .unquoted }
    | _ => some (s.push [c] .unquoted)
  | .single =>
    match kind c with
    | .singleQuote => some { s with mode := .unquoted }
    | _ => some (s.push [c] .single)
  | .double =>
    match kind c with
    | .doubleQuote => some { s with mode := .unquoted }
    | .backslash => some { s with mode := .doubleEscaped c }
    | .dollar => none
    | _ => some (s.push [c] .double)
  | .doubleEscaped b =>
    match kind c with
    | .newline => some { s with mode := .double }
    | .dollar | .backslash | .doubleQuote => some (s.push [c] .double)
    | _ => some (s.push [b, c] .double)

/-- The words at the end of the line, if no quote is open. -/
def finish (s : Reader α) : Option (List (List α)) :=
  match s.mode with
  | .unquoted => some s.complete.words
  | _ => none

end Reader

/-- The words of a line, if it is a command with fixed words. -/
def words (kind : α → Kind) (line : List α) : Option (List (List α)) :=
  (line.foldlM (Reader.step kind) .start).bind Reader.finish

/-- The word can be written without quotes. -/
structure Fixed (kind : α → Kind) (w : List α) : Prop where
  ne_nil : w ≠ []
  ordinary : ∀ c ∈ w, kind c = .plain ∨ kind c = .leading
  head : ∀ c ∈ w.head?, kind c ≠ .leading

variable {kind : α → Kind} {s t : Reader α} {w line : List α} {ws : List (List α)} {c blank : α}

theorem Fixed.append (h : Fixed kind w) {v : List α}
    (hv : ∀ c ∈ v, kind c = .plain ∨ kind c = .leading) : Fixed kind (w ++ v) where
  ne_nil := by simp [h.ne_nil]
  ordinary d hd := (List.mem_append.1 hd).elim (h.ordinary d) (hv d)
  head d hd := by
    obtain ⟨a, w', rfl⟩ := List.exists_cons_of_ne_nil h.ne_nil
    exact h.head d hd

theorem fixed_singleton (hc : kind c = .plain) : Fixed kind [c] where
  ne_nil := by simp
  ordinary d hd := .inl (List.mem_singleton.1 hd ▸ hc)
  head d hd := by
    obtain rfl : c = d := by simpa using hd
    simp [hc]

/-! ### Reading fixed words -/

/-- The rest of a word is read. -/
theorem foldlM_ordinary (hw : ∀ c ∈ w, kind c = .plain ∨ kind c = .leading) (ws : List (List α))
    (v : List α) : w.foldlM (Reader.step kind) ⟨ws, some v, .unquoted⟩ =
      some ⟨ws, some (v ++ w), .unquoted⟩ := by
  induction w generalizing v with
  | nil => simp
  | cons c w ih =>
    have hstep : Reader.step kind ⟨ws, some v, .unquoted⟩ c =
        some ⟨ws, some (v ++ [c]), .unquoted⟩ := by
      rcases hw c (by simp) with hc | hc <;> simp [Reader.step, hc, Reader.push]
    rw [List.foldlM_cons, hstep]
    refine (ih (fun d hd => hw d (by simp [hd])) (v ++ [c])).trans ?_
    rw [List.append_assoc, List.singleton_append]

/-- A fixed word is read. -/
theorem Fixed.foldlM (h : Fixed kind w) (ws : List (List α)) :
    w.foldlM (Reader.step kind) ⟨ws, none, .unquoted⟩ = some ⟨ws, some w, .unquoted⟩ := by
  cases w with
  | nil => exact absurd rfl h.ne_nil
  | cons c w =>
    have hc : kind c = .plain :=
      (h.ordinary c (by simp)).resolve_right (h.head c (by simp))
    have hstep : Reader.step kind ⟨ws, none, .unquoted⟩ c = some ⟨ws, some [c], .unquoted⟩ := by
      simp [Reader.step, hc, Reader.push]
    rw [List.foldlM_cons, hstep]
    exact foldlM_ordinary (fun d hd => h.ordinary d (by simp [hd])) ws [c]

/-- Fixed words joined by single blanks are read. -/
theorem foldlM_intercalate (hblank : kind blank = .blank) (h : ∀ w ∈ ws, Fixed kind w)
    (ws' : List (List α)) : (([blank] : List α).intercalate ws).foldlM (Reader.step kind)
      ⟨ws', none, .unquoted⟩ >>= Reader.finish = some (ws' ++ ws) := by
  induction ws generalizing ws' with
  | nil => simp [Reader.finish, Reader.complete]
  | cons w ws ih =>
    have hw := (h w (by simp)).foldlM ws'
    cases ws with
    | nil =>
      rw [List.intercalate_singleton, hw]
      rfl
    | cons v ws =>
      have hstep : Reader.step kind ⟨ws', some w, .unquoted⟩ blank =
          some ⟨ws' ++ [w], none, .unquoted⟩ := by
        simp [Reader.step, hblank, Reader.complete]
      rw [List.intercalate_cons_cons, List.append_assoc, List.foldlM_append, hw]
      refine (congrArg (· >>= Reader.finish) (List.foldlM_cons ..)).trans ?_
      rw [hstep]
      refine (ih (fun u hu => h u (by simp [hu])) (ws' ++ [w])).trans ?_
      rw [List.append_assoc, List.singleton_append]

/-! ### Lines that are read without loss -/

/-- The number of characters in some words, with a blank behind each. -/
def spread : List (List α) → ℕ
  | [] => 0
  | w :: ws => w.length + 1 + spread ws

theorem spread_append (ws vs : List (List α)) : spread (ws ++ vs) = spread ws + spread vs := by
  induction ws with
  | nil => exact (Nat.zero_add _).symm
  | cons w ws ih =>
    rw [List.cons_append, spread, spread, ih]
    omega

/-- A backslash that is kept if the next character is not quoted by it. -/
def Mode.pending : Mode α → ℕ
  | .doubleEscaped _ => 1
  | _ => 0

namespace Reader

/-- The number of characters in the words of a reading, with a blank behind every complete one. -/
def kept (s : Reader α) : ℕ :=
  spread s.words + (s.word.getD []).length

/-- The number of characters that a reading has kept or may yet keep. -/
def size (s : Reader α) : ℕ := s.kept + s.mode.pending

/-- All words of a reading are fixed, the one that is not complete included. -/
structure AllFixed (kind : α → Kind) (s : Reader α) : Prop where
  words : ∀ w ∈ s.words, Fixed kind w
  word : ∀ w ∈ s.word, Fixed kind w

theorem size_push (s : Reader α) (cs : List α) (mode : Mode α) :
    (s.push cs mode).size = s.kept + cs.length + mode.pending := by
  simp [size, kept, push, Nat.add_assoc]

theorem size_complete (s : Reader α) :
    s.complete.size = s.kept + if s.word = none then 0 else 1 := by
  obtain ⟨ws, w, mode⟩ := s
  cases w <;> simp [size, kept, complete, Mode.pending, spread_append, spread, Nat.add_assoc]

theorem finish_eq_some_iff :
    s.finish = some ws ↔ s.mode = .unquoted ∧ s.words ++ s.word.toList = ws := by
  unfold finish
  cases s.mode <;> simp [complete]

/-- What a character does outside quotes. -/
theorem step_unquoted (hs : s.mode = .unquoted) (h : s.step kind c = some t) :
    ((kind c = .plain ∨ kind c = .leading ∧ s.word ≠ none) ∧ t = s.push [c] .unquoted) ∨
      (kind c = .blank ∧ t = s.complete) ∨
      t = { s with mode := .escaped } ∨ t = s.push [] .single ∨ t = s.push [] .double := by
  unfold step at h
  rw [hs] at h
  cases hc : kind c <;> simp only [hc, Option.some.injEq, reduceCtorEq] at h
  case plain => exact .inl ⟨.inl rfl, h.symm⟩
  case leading =>
    split_ifs at h with hword
    exact .inl ⟨.inr ⟨rfl, hword⟩, (Option.some.inj h).symm⟩
  case blank => exact .inr (.inl ⟨rfl, h.symm⟩)
  case backslash => exact .inr (.inr (.inl h.symm))
  case singleQuote => exact .inr (.inr (.inr (.inl h.symm)))
  case doubleQuote => exact .inr (.inr (.inr (.inr h.symm)))

/-- What a character does in quotes: some are appended to the word, or only the mode changes. -/
theorem step_quoted (hs : s.mode ≠ .unquoted) (h : s.step kind c = some t) :
    ∃ cs mode, (t = s.push cs mode ∨ t = { s with mode := mode } ∧ cs = []) ∧
      cs.length + mode.pending ≤ s.mode.pending + 1 := by
  unfold step at h
  cases hmode : s.mode <;> rw [hmode] at h <;> dsimp only at h
  case unquoted => exact absurd hmode hs
  case escaped =>
    split at h
    · exact ⟨[], .unquoted, .inr ⟨(Option.some.inj h).symm, rfl⟩, by simp [Mode.pending]⟩
    · exact ⟨[c], .unquoted, .inl (Option.some.inj h).symm, by simp [Mode.pending]⟩
  case single =>
    split at h
    · exact ⟨[], .unquoted, .inr ⟨(Option.some.inj h).symm, rfl⟩, by simp [Mode.pending]⟩
    · exact ⟨[c], .single, .inl (Option.some.inj h).symm, by simp [Mode.pending]⟩
  case double =>
    split at h
    · exact ⟨[], .unquoted, .inr ⟨(Option.some.inj h).symm, rfl⟩, by simp [Mode.pending]⟩
    · exact ⟨[], .doubleEscaped c, .inr ⟨(Option.some.inj h).symm, rfl⟩, by simp [Mode.pending]⟩
    · cases h
    · exact ⟨[c], .double, .inl (Option.some.inj h).symm, by simp [Mode.pending]⟩
  case doubleEscaped b =>
    split at h
    · exact ⟨[], .double, .inr ⟨(Option.some.inj h).symm, rfl⟩, by simp [Mode.pending]⟩
    · exact ⟨[c], .double, .inl (Option.some.inj h).symm, by simp [Mode.pending]⟩
    · exact ⟨[c], .double, .inl (Option.some.inj h).symm, by simp [Mode.pending]⟩
    · exact ⟨[c], .double, .inl (Option.some.inj h).symm, by simp [Mode.pending]⟩
    · exact ⟨[b, c], .double, .inl (Option.some.inj h).symm, by simp [Mode.pending]⟩

/-- **No character adds more than one.** -/
theorem size_step_le (h : s.step kind c = some t) : t.size ≤ s.size + 1 := by
  have hkept : s.kept ≤ s.size := Nat.le_add_right _ _
  by_cases hs : s.mode = .unquoted
  · rcases step_unquoted hs h with ⟨-, rfl⟩ | ⟨-, rfl⟩ | rfl | rfl | rfl
    · rw [size_push]
      simpa [Mode.pending] using hkept
    · rw [size_complete]
      split_ifs <;> omega
    · exact Nat.le_succ_of_le hkept
    · rw [size_push]
      exact Nat.le_succ_of_le hkept
    · rw [size_push]
      exact Nat.le_succ_of_le hkept
  · obtain ⟨cs, mode, ht, hle⟩ := step_quoted hs h
    have hsize : t.size = s.kept + (cs.length + mode.pending) := by
      rcases ht with rfl | ⟨rfl, rfl⟩
      · rw [size_push, Nat.add_assoc]
      · rw [List.length_nil, Nat.zero_add]
        rfl
    have hpending : s.size = s.kept + s.mode.pending := rfl
    omega

/-- **A character that adds one outside quotes** is one of a fixed word, or the blank behind one. -/
theorem AllFixed.step (hs : s.AllFixed kind) (hmode : s.mode = .unquoted)
    (h : s.step kind c = some t) (hsize : s.size < t.size) :
    t.AllFixed kind ∧ t.mode = .unquoted := by
  have hkept : s.size = s.kept := by
    rw [size, hmode]
    rfl
  rcases step_unquoted hmode h with ⟨hc, rfl⟩ | ⟨-, rfl⟩ | rfl | rfl | rfl
  · refine ⟨⟨hs.words, fun w hw => ?_⟩, rfl⟩
    obtain rfl : s.word.getD [] ++ [c] = w := Option.some.inj hw
    cases hword : s.word with
    | none =>
      rcases hc with hc | ⟨-, hnone⟩
      · exact fixed_singleton hc
      · exact absurd hword hnone
    | some v =>
      refine (hs.word v hword).append fun d hd => ?_
      obtain rfl := List.mem_singleton.1 hd
      exact hc.imp_right And.left
  · refine ⟨⟨fun w hw => ?_, fun w hw => by cases hw⟩, rfl⟩
    rcases List.mem_append.1 hw with hw | hw
    · exact hs.words w hw
    · exact hs.word w (Option.mem_toList.1 hw)
  · exact absurd hsize (Nat.not_lt.2 (Nat.le_of_eq hkept.symm))
  · rw [size_push, hkept] at hsize
    exact absurd hsize (Nat.lt_irrefl _)
  · rw [size_push, hkept] at hsize
    exact absurd hsize (Nat.lt_irrefl _)

theorem size_foldlM_le (h : line.foldlM (step kind) s = some t) :
    t.size ≤ s.size + line.length := by
  induction line generalizing s with
  | nil =>
    obtain rfl : s = t := Option.some.inj h
    exact Nat.le_refl _
  | cons c line ih =>
    rw [List.foldlM_cons] at h
    obtain ⟨u, hstep, hrest⟩ := Option.bind_eq_some_iff.1 h
    have hfirst := size_step_le hstep
    have hle := ih hrest
    rw [List.length_cons]
    omega

/-- **A line that is read without loss** consists of fixed words. -/
theorem AllFixed.foldlM (hs : s.AllFixed kind) (hmode : s.mode = .unquoted)
    (h : line.foldlM (Reader.step kind) s = some t) (hsize : s.size + line.length ≤ t.size) :
    t.AllFixed kind := by
  induction line generalizing s with
  | nil =>
    obtain rfl : s = t := Option.some.inj h
    exact hs
  | cons c line ih =>
    rw [List.foldlM_cons] at h
    obtain ⟨u, hstep, hrest⟩ := Option.bind_eq_some_iff.1 h
    have hle := size_foldlM_le hrest
    have hfirst := size_step_le hstep
    rw [List.length_cons] at hsize
    obtain ⟨hu, humode⟩ := hs.step hmode hstep (by omega)
    exact ih hu humode hrest (by omega)

end Reader

theorem length_intercalate (blank : α) (ws : List (List α)) :
    (([blank] : List α).intercalate ws).length = spread ws - 1 := by
  induction ws with
  | nil => rfl
  | cons w ws ih =>
    cases ws with
    | nil => simp [spread]
    | cons v ws =>
      rw [List.intercalate_cons_cons, List.length_append, List.length_append, ih]
      simp only [spread, List.length_singleton]
      omega

/-- **Words joined by single blanks are read back** if and only if each can be written without
quotes. -/
theorem words_intercalate_iff (hblank : kind blank = .blank) :
    words kind (([blank] : List α).intercalate ws) = some ws ↔ ∀ w ∈ ws, Fixed kind w := by
  constructor
  · intro h
    obtain ⟨t, hread, hfinish⟩ := Option.bind_eq_some_iff.1 h
    obtain ⟨hmode, hws⟩ := Reader.finish_eq_some_iff.1 hfinish
    -- the words are as long as the line, so that nothing was lost
    have hsize : (([blank] : List α).intercalate ws).length ≤ t.size := by
      have hcomplete := Reader.size_complete t
      have hkept : t.complete.size = spread ws := by
        rw [← hws]
        rfl
      have htotal : t.size = t.kept := by
        rw [Reader.size, hmode]
        rfl
      rw [length_intercalate, htotal]
      split_ifs at hcomplete <;> omega
    have hstart : Reader.AllFixed kind .start :=
      ⟨fun w hw => (by cases hw), fun w hw => (by cases hw)⟩
    have hzero : (Reader.start : Reader α).size = 0 := rfl
    have hfixed : t.AllFixed kind := by
      refine hstart.foldlM rfl hread ?_
      rw [hzero, Nat.zero_add]
      exact hsize
    intro w hw
    rw [← hws] at hw
    rcases List.mem_append.1 hw with hw | hw
    · exact hfixed.words w hw
    · exact hfixed.word w (Option.mem_toList.1 hw)
  · exact fun h => (foldlM_intercalate hblank h []).trans (by rw [List.nil_append])

end ShellWords
