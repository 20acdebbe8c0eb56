import TagConsole.Proofs.Dialect.Phrases
import TagConsole.Proofs.Text.SmallLetters

/-!
Suggestions from the catalog. An entry is suggested if it begins with what was typed and few enough of those before it
do, so that a text is known exactly if there is something to suggest.
-/

namespace TagConsole.Dialect

def Begins (start entry : String) : Prop := (Text.lower start).toList <+: entry.toList

instance (start entry : String) : Decidable (Begins start entry) := inferInstanceAs (Decidable (_ <+: _))

theorem isPrefixOf_lower (start entry : String) : Text.isPrefixOf (Text.lower start) entry = decide (Begins start entry) := by
  rw [Bool.eq_iff_iff, decide_eq_true_eq]
  exact List.isPrefixOf_iff_prefix

theorem mem_take_filter {α : Type} {p : α → Bool} {x : α} {xs : List α} {n : Nat} : x ∈ (xs.filter p).take n ↔
    ∃ before after, xs = before ++ x :: after ∧ p x = true ∧ before.countP p < n := by
  induction xs generalizing n with
  | nil => simp
  | cons y xs ih =>
    cases passes : p y with
    | false =>
      rw [List.filter_cons_of_neg (by simp [passes]), ih]
      constructor
      · rintro ⟨before, after, rfl, some, few⟩
        exact ⟨y :: before, after, rfl, some, by simpa [passes] using few⟩
      · rintro ⟨before, after, whole, some, few⟩
        rcases List.cons_eq_append_iff.mp whole with ⟨rfl, first⟩ | ⟨before, rfl, rfl⟩
        · cases first
          cases passes.symm.trans some
        · exact ⟨before, after, rfl, some, by simpa [passes] using few⟩
    | true =>
      rw [List.filter_cons_of_pos passes]
      cases n with
      | zero => simp
      | succ n =>
        rw [List.take_succ_cons, List.mem_cons, ih]
        constructor
        · rintro (rfl | ⟨before, after, rfl, some, few⟩)
          · exact ⟨[], xs, rfl, passes, Nat.zero_lt_succ n⟩
          · exact ⟨y :: before, after, rfl, some, by simpa [passes] using few⟩
        · rintro ⟨before, after, whole, some, few⟩
          rcases List.cons_eq_append_iff.mp whole with ⟨rfl, first⟩ | ⟨before, rfl, rfl⟩
          · cases first
            exact .inl rfl
          · exact .inr ⟨before, after, rfl, some, by simpa [passes] using few⟩

/-- What the catalog has to say on a text. -/
structure Suggests (start : String) : Prop where
  ordered : (suggest start).Sublist knownCommands
  distinct : (suggest start).Nodup
  member : ∀ entry, entry ∈ suggest start ↔ ∃ before after, knownCommands = before ++ entry :: after ∧
    Begins start entry ∧ before.countP (Begins start ·) < 10
  known : isKnown start = true ↔ suggest start ≠ []
  lower : suggest (Text.lower start) = suggest start ∧ isKnown (Text.lower start) = isKnown start
  shorter : ∀ shorter : String, Text.lower start = start → shorter.toList <+: start.toList → isKnown start = true →
    isKnown shorter = true

theorem suggests (start : String) : Suggests start where
  ordered := (List.take_sublist _ _).trans List.filter_sublist
  distinct := by
    have catalog : knownCommands.Nodup := by decide +kernel
    exact catalog.sublist ((List.take_sublist _ _).trans List.filter_sublist)
  member entry := by
    have begins : Text.isPrefixOf (Text.lower start) = fun entry => decide (Begins start entry) :=
      funext fun entry => isPrefixOf_lower start entry
    rw [suggest, begins, mem_take_filter]
    simp only [decide_eq_true_eq, maxSuggestions]
  known := by rw [ne_eq, suggest_eq_nil_iff, Bool.not_eq_false]
  lower := by
    rw [suggest, isKnown, Text.lower_lower]
    exact ⟨rfl, rfl⟩
  shorter shorter small front known := by
    rw [isKnown, List.any_eq_true] at known ⊢
    obtain ⟨entry, listed, begins⟩ := known
    refine ⟨entry, listed, List.isPrefixOf_iff_prefix.mpr ?_⟩
    rw [Text.lower_eq_self_of_prefix small front]
    rw [small] at begins
    exact front.trans (List.isPrefixOf_iff_prefix.mp begins)

end TagConsole.Dialect
