import Mathlib.Data.List.Infix

/-!
# Absolute paths

An absolute path is a list over an alphabet with a separator and a dot. It leads from the root,
component by component, to a file, which is given by the names of the directories on the way and
its own: an empty component and a single dot lead nowhere, and two dots lead to the directory
above. Links are not followed.

## Main definitions

* `enter`: one component of a path.
* `resolve`: the file that a path leads to.
* `Below`: the files in a directory or in the directories below it.

## Main results

* `resolve_append_cons`: a path is followed from the directory that its first part leads to.
* `resolve_name`: **a last component leads to a file of the directory, to the directory or to one
  above it.**
-/

namespace Paths

variable {α : Type*}

/-- The file `file` lies in the directory `dir` or in a directory below it. -/
def Below (dir file : List (List α)) : Prop := dir <+: file ∧ dir ≠ file

theorem below_append_singleton (dir : List (List α)) (name : List α) : Below dir (dir ++ [name]) :=
  ⟨List.prefix_append dir [name], fun heq => by simpa using congrArg List.length heq⟩

variable [DecidableEq α] {sep dot : α} {name : List α}

instance (dir file : List (List α)) : Decidable (Below dir file) :=
  inferInstanceAs (Decidable (_ ∧ _))

variable (dot) in
/-- What is reached from a directory by one component of a path. -/
def enter (dir : List (List α)) (name : List α) : List (List α) :=
  if name = [] ∨ name = [dot] then dir
  else if name = [dot, dot] then dir.dropLast
  else dir ++ [name]

variable (sep dot) in
/-- The file that an absolute path leads to, by the names on the way to it. -/
def resolve (path : List α) : List (List α) := (path.splitOn sep).foldl (enter dot) []

@[simp] theorem enter_nil (dir : List (List α)) : enter dot dir [] = dir := if_pos (.inl rfl)

/-- A component leads to a file of the directory, to the directory or to the one above it. -/
theorem enter_cases (dot : α) (dir : List (List α)) (name : List α) :
    enter dot dir name = dir ++ [name] ∨ enter dot dir name <+: dir := by
  unfold enter
  split_ifs
  · exact .inr (List.prefix_refl dir)
  · exact .inr (List.dropLast_prefix dir)
  · exact .inl rfl

/-- **A path is followed** from the directory that its first part leads to. -/
theorem resolve_append_cons (dir rest : List α) :
    resolve sep dot (dir ++ sep :: rest) =
      (rest.splitOn sep).foldl (enter dot) (resolve sep dot dir) := by
  rw [resolve, List.splitOn_append_cons_self, List.foldl_append]
  rfl

/-- The last component of a path. -/
theorem resolve_append_name (dir : List α) (hname : sep ∉ name) :
    resolve sep dot (dir ++ sep :: name) = enter dot (resolve sep dot dir) name := by
  rw [resolve_append_cons, List.splitOn_eq_singleton hname]
  rfl

/-- A separator at the end of a path leads nowhere. -/
theorem resolve_append_sep (dir : List α) :
    resolve sep dot (dir ++ [sep]) = resolve sep dot dir :=
  (resolve_append_name dir List.not_mem_nil).trans (enter_nil _)

/-- **A last component** leads to a file of the directory, to the directory or to one above it. -/
theorem resolve_name (dir : List α) (hname : sep ∉ name) :
    resolve sep dot (dir ++ sep :: name) = resolve sep dot dir ++ [name] ∨
      resolve sep dot (dir ++ sep :: name) <+: resolve sep dot dir := by
  rw [resolve_append_name dir hname]
  exact enter_cases dot _ name

end Paths
