import TagConsole.Proofs.Dialect.Grammar
import TagConsole.Proofs.Text.SmallLetters

/-!
Lines and the phrases they are cut into. A phrase that is written out is a line of the same phrase, and two lines are
the same phrase exactly if they have the same words, up to the case of the first.
-/

namespace TagConsole.Dialect

inductive SameWords : List String → List String → Prop where
  | none : SameWords [] []
  | some {first first' args} (same : Text.lower first = Text.lower first') :
      SameWords (first :: args) (first' :: args)

namespace Phrase

variable {line other : String} {phrase : Phrase}

theorem ofLine?_eq_none_iff_blank : ofLine? line = none ↔ ∀ c ∈ line.toList, Text.isBlank c = true := by
  rw [ofLine?_eq_none, Text.trim_isEmpty_iff, Text.words, List.map_eq_nil_iff, Text.wordsOf_eq_nil]

theorem ofLine?_eq_some : ofLine? line = some phrase ↔
    ∃ first, Text.words line = first :: phrase.args ∧ phrase.keyword = Text.lower first := by
  obtain ⟨keyword, args⟩ := phrase
  rw [ofLine?]
  constructor
  · intro found
    split at found
    · cases found
    · rename_i first args words
      cases found
      exact ⟨first, words, rfl⟩
  · rintro ⟨first, words, rfl⟩
    rw [words]

theorem words_visible (found : ofLine? line = some phrase) :
    ∀ word ∈ phrase.keyword :: phrase.args, word.toList ≠ [] ∧ ∀ c ∈ word.toList, Text.isBlank c = false := by
  obtain ⟨first, words, keyword⟩ := ofLine?_eq_some.mp found
  have visible : ∀ word ∈ first :: phrase.args, word.toList ≠ [] ∧ ∀ c ∈ word.toList, Text.isBlank c = false :=
    fun word member => Dialect.words_visible (words ▸ member)
  rw [List.forall_mem_cons] at visible ⊢
  rw [keyword]
  exact ⟨Text.lower_visible visible.1.1 visible.1.2, visible.2⟩

theorem ofLine?_text (found : ofLine? line = some phrase) : ofLine? phrase.text = some phrase := by
  obtain ⟨first, -, keyword⟩ := ofLine?_eq_some.mp found
  have words : Text.words phrase.text = phrase.keyword :: phrase.args := Text.words_unwords (words_visible found)
  refine ofLine?_eq_some.mpr ⟨phrase.keyword, words, ?_⟩
  rw [keyword, Text.lower_lower]

theorem ofLine?_eq_iff : ofLine? line = ofLine? other ↔ SameWords (Text.words line) (Text.words other) := by
  rw [ofLine?, ofLine?]
  generalize Text.words line = words
  generalize Text.words other = words'
  constructor
  · intro same
    cases words with
    | nil =>
      cases words' with
      | nil => exact .none
      | cons first' args' => cases same
    | cons first args =>
      cases words' with
      | nil => cases same
      | cons first' args' =>
        rw [Option.some.injEq, Phrase.mk.injEq] at same
        obtain ⟨same, rfl⟩ := same
        exact .some same
  · intro same
    cases same with
    | none => rfl
    | some same => simp only [same]

end Phrase

/-- What becomes of a line with some words, and of its phrase when it is written out. -/
structure Normal (line : String) (words : List String) : Prop where
  runs : ∀ others : List String, Text.InWords line.toList (others.map String.toList) ↔ others = words
  blank : Phrase.ofLine? line = none ↔ ∀ c ∈ line.toList, Text.isBlank c = true
  phrase : ∀ phrase, Phrase.ofLine? line = some phrase ↔
    ∃ first, words = first :: phrase.args ∧ phrase.keyword = Text.lower first
  visible : ∀ phrase, Phrase.ofLine? line = some phrase → ∀ word ∈ phrase.keyword :: phrase.args,
    word.toList ≠ [] ∧ ∀ c ∈ word.toList, Text.isBlank c = false
  again : ∀ phrase, Phrase.ofLine? line = some phrase → Phrase.ofLine? phrase.text = some phrase
  same : ∀ other, Phrase.ofLine? line = Phrase.ofLine? other ↔ SameWords words (Text.words other)
  translation : ∀ phrase, Phrase.ofLine? line = some phrase → translation phrase.text = translation line

theorem line_normal (line : String) : Normal line (Text.words line) where
  runs others := runs_iff
  blank := Phrase.ofLine?_eq_none_iff_blank
  phrase phrase := Phrase.ofLine?_eq_some
  visible phrase found := Phrase.words_visible found
  again phrase found := Phrase.ofLine?_text found
  same other := Phrase.ofLine?_eq_iff
  translation phrase found := by rw [translation, translation, Phrase.ofLine?_text found, found]

end TagConsole.Dialect
