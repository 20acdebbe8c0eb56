import TagConsole.Dialect.Catalog
import TagConsole.Dialect.Mapping
import TagConsole.Proofs.Text.Words

/-!
Phrases that stand for a device command. Their keywords are few, the catalog knows them all, and a line with one
of them begins with it.
-/

namespace TagConsole.Dialect

def translated? (line : String) : Option Wire.Command := (Phrase.ofLine? line).bind (·.command.toOption)

def deviceKeywords : List String := ["hw", "hf", "data"]

namespace Phrase

variable {line : String} {phrase : Phrase}

@[simp] theorem ofLine?_trim (line : String) : ofLine? (Text.trim line) = ofLine? line := by
  rw [ofLine?, ofLine?, Text.words_trim]

theorem ofLine?_eq_none : ofLine? line = none ↔ (Text.trim line).isEmpty = true := by
  rw [Text.trim_isEmpty_iff, ofLine?]
  cases Text.words line <;> simp

theorem keyword_of_command {command : Wire.Command} (ok : phrase.command = .ok command) :
    phrase.keyword ∈ deviceKeywords := by
  unfold Phrase.command at ok
  split at ok
  case h_8 => cases ok
  all_goals
    rename_i keyword _
    simp [deviceKeywords, keyword]

theorem setSlot_of_command {command : Wire.Command} (ok : phrase.command = .ok command)
    (sets : command.opcode = .setSlot) : ∃ slot, command = .setSlot slot := by
  unfold Phrase.command at ok
  split at ok
  case h_6 =>
    unfold rawExchange at ok
    split at ok
    · cases ok
      cases sets
    · cases ok
  case h_7 =>
    unfold setSlot at ok
    split at ok
    · cases ok
    · split at ok
      · rename_i slot read
        cases ok
        exact ⟨slot, rfl⟩
      · cases ok
  case h_8 => cases ok
  all_goals
    cases ok
    cases sets

theorem line_begins (found : ofLine? line = some phrase) (device : phrase.keyword ∈ deviceKeywords) :
    phrase.keyword.toList <+: (Text.lower (Text.trim line)).toList := by
  unfold ofLine? at found
  split at found
  · cases found
  · rename_i word args words
    cases found
    refine Text.lower_begins words ?_
    have plain : ∀ keyword ∈ deviceKeywords, 'σ' ∉ keyword.toList ∧ 'ς' ∉ keyword.toList := by decide
    exact plain _ device

end Phrase

theorem translated?_eq_some {line : String} {command : Wire.Command} :
    translated? line = some command ↔ ∃ phrase, Phrase.ofLine? line = some phrase ∧ phrase.command = .ok command := by
  rw [translated?, Option.bind_eq_some_iff]
  refine exists_congr fun phrase => and_congr_right fun _ => ?_
  cases phrase.command <;> simp [Except.toOption]

theorem isKnown_device {keyword : String} (device : keyword ∈ deviceKeywords) : isKnown keyword = true := by
  revert keyword
  decide +kernel

theorem suggest_eq_nil_iff {start : String} : suggest start = [] ↔ isKnown start = false := by
  rw [suggest, List.take_eq_nil_iff, isKnown, List.any_eq_false]
  simp [maxSuggestions]

end TagConsole.Dialect
