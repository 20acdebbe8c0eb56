import Mathlib.Data.List.Basic
import TagConsole.Files

/-!
What putting a file into a tree changes: the file is found at its place, and every folder is still there.
-/

namespace TagConsole.Files

def Entries.at? : List String → Entries → Option Entries
  | [], entries => some entries
  | name :: below, entries => (entries.folder? name).bind (Entries.at? below)

variable {entries sub : Entries} {name other : String} {node : Node}

theorem at?_append (place below : List String) (entries : Entries) :
    Entries.at? (place ++ below) entries = (Entries.at? place entries).bind (Entries.at? below) := by
  induction place generalizing entries with
  | nil => rfl
  | cons name place ih =>
    rw [List.cons_append, Entries.at?, Entries.at?, Option.bind_assoc]
    exact congrArg _ (funext ih)

theorem lookup_set_same : (entries.set name node).lookup name = some node := by
  induction entries with
  | nil => simp [Entries.set]
  | cons entry entries ih =>
    rw [Entries.set]
    split
    · simp
    · rename_i different
      rw [List.lookup_cons, beq_eq_false_iff_ne.mpr (Ne.symm different)]
      exact ih

theorem lookup_set_ne (different : other ≠ name) : (entries.set name node).lookup other = entries.lookup other := by
  have miss : (other == name) = false := beq_eq_false_iff_ne.mpr different
  induction entries with
  | nil => simp [Entries.set, List.lookup_cons, miss]
  | cons entry entries ih =>
    rw [Entries.set]
    split
    · rename_i same
      rw [List.lookup_cons, List.lookup_cons, same, miss]
    · rw [List.lookup_cons, List.lookup_cons, ih]

theorem folder?_eq_some : entries.folder? name = some sub ↔ entries.lookup name = some (.folder sub) := by
  unfold Entries.folder?
  split
  · rename_i found
    simp [found]
  · rename_i none
    refine iff_of_false nofun fun found => none _ found

theorem folder?_set_same : (entries.set name (.folder sub)).folder? name = some sub :=
  folder?_eq_some.mpr lookup_set_same

theorem folder?_set_ne (different : other ≠ name) : (entries.set name node).folder? other = entries.folder? other := by
  rw [Entries.folder?, Entries.folder?, lookup_set_ne different]

theorem put_cons {below : List String} (inside : below ≠ []) (node : Node) (entries : Entries) :
    Entries.put node (name :: below) entries =
      entries.set name (.folder (Entries.put node below ((entries.folder? name).getD []))) := by
  cases below with
  | nil => exact absurd rfl inside
  | cons next below => rfl

theorem lookup_put {place : List String} (folder : Entries.at? place entries = some sub) (name : String) (node : Node) :
    ∃ after, Entries.at? place (Entries.put node (place ++ [name]) entries) = some after ∧
      after.lookup name = some node := by
  induction place generalizing entries with
  | nil => exact ⟨_, rfl, lookup_set_same⟩
  | cons first place ih =>
    obtain ⟨inner, found, inside⟩ := Option.bind_eq_some_iff.mp folder
    obtain ⟨after, holds, put⟩ := ih inside
    refine ⟨after, ?_, put⟩
    rw [List.cons_append, put_cons (by simp), found, Entries.at?, folder?_set_same]
    exact holds

theorem at?_put {place : List String} (folder : Entries.at? place entries = some sub) (unused : sub.folder? name = none)
    (bytes : List UInt8) {path : List String} (there : (Entries.at? path entries).isSome = true) :
    (Entries.at? path (Entries.put (.file bytes) (place ++ [name]) entries)).isSome = true := by
  induction place generalizing entries path with
  | nil =>
    obtain rfl := Option.some.inj folder
    cases path with
    | nil => rfl
    | cons first path =>
      -- A way to a folder does not start with the name of the file.
      have different : first ≠ name := by
        rintro rfl
        rw [Entries.at?, unused] at there
        cases there
      change (Entries.at? (first :: path) (Entries.set name _ entries)).isSome = true
      rwa [Entries.at?, folder?_set_ne different]
  | cons outer place ih =>
    obtain ⟨inner, found, inside⟩ := Option.bind_eq_some_iff.mp folder
    rw [List.cons_append, put_cons (by simp), found]
    cases path with
    | nil => rfl
    | cons first path =>
      by_cases same : first = outer
      · subst same
        rw [Entries.at?, found] at there
        rw [Entries.at?, folder?_set_same]
        exact ih inside there
      · rwa [Entries.at?, folder?_set_ne same]

end TagConsole.Files
