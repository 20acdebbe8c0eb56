import TagConsole.Proofs.Dialect.Phrases
import TagConsole.Proofs.Text.Hex
import TagConsole.Proofs.Wire.Slots

/-!
The grammar of the lines that stand for a device command. A line is translated exactly if its words spell a command,
and the head of any other line decides how it is refused.
-/

namespace TagConsole.Dialect

open Wire (Command)

def translation (line : String) : Option (Except MappingError Command) := (Phrase.ofLine? line).map (·.command)

/-- The words that spell a device command. Case counts in all of them but the first and the digits. -/
inductive Spells : List String → Command → Prop where
  | version {family verb others} (hw : Text.lower family = "hw") (asks : verb = "version" ∨ verb = "status") :
      Spells (family :: verb :: others) ⟨.getVersion, []⟩
  | search {family others} (hf : Text.lower family = "hf") : Spells (family :: "search" :: others) ⟨.scanTag, []⟩
  | scan {family verb others} (hf : Text.lower family = "hf") (asks : verb = "info" ∨ verb = "reader") :
      Spells (family :: "14a" :: verb :: others) ⟨.scanTag, []⟩
  | raw {family digits payload} (hf : Text.lower family = "hf") (nonempty : digits ≠ [])
      (spelled : (digits.flatMap String.toList).map Char.toLower = payload.flatMap Hex.encodeByte) :
      Spells (family :: "14a" :: "raw" :: digits) ⟨.rawExchange, payload⟩
  | slot {family name others} {n : Nat} (data : Text.lower family = "data")
      (numeral : Text.IsNumeral name.toList n) (small : n ≤ 7) :
      Spells (family :: "setslot" :: name :: others) ⟨.setSlot, [UInt8.ofNat n]⟩

inductive HasHead : List String → Prop where
  | raw {family digits} (hf : Text.lower family = "hf") : HasHead (family :: "14a" :: "raw" :: digits)
  | slot {family others} (data : Text.lower family = "data") : HasHead (family :: "setslot" :: others)

namespace Phrase

def argsFrom? (phrase : Phrase) (index : Nat) : Option (List String) :=
  if index ≤ phrase.args.length then some (phrase.args.drop index) else none

/-- The device command with each argument looked up by its index; nothing if that ever leads beyond the end. -/
def commandByIndex? (phrase : Phrase) : Option (Except MappingError Command) :=
  match phrase.keyword, phrase.args[0]? with
  | "hw", some "version" => some (.ok .getVersion)
  | "hw", some "status" => some (.ok .getVersion)
  | "hf", some "search" => some (.ok .scanTag)
  | "hf", some "14a" =>
    match phrase.args[1]? with
    | some "info" => some (.ok .scanTag)
    | some "reader" => some (.ok .scanTag)
    | some "raw" => (phrase.argsFrom? 2).map phrase.rawExchange
    | _ => some (.error (.unsupported phrase.text))
  | "data", some "setslot" => some (phrase.setSlot phrase.args[1]?.toList)
  | _, _ => some (.error (.unsupported phrase.text))

theorem commandByIndex?_eq (phrase : Phrase) : phrase.commandByIndex? = some phrase.command := by
  obtain ⟨keyword, args⟩ := phrase
  unfold commandByIndex? command
  rcases args with _ | ⟨verb, _ | ⟨second, others⟩⟩
  · simp
  · simp only [List.getElem?_cons_zero, List.getElem?_cons_succ, List.getElem?_nil, Option.toList_none]
    split <;> simp_all
  · simp only [List.getElem?_cons_zero, List.getElem?_cons_succ, Option.toList_some]
    split
    case h_4 =>
      simp_all only [Option.some.injEq]
      split <;> simp_all [argsFrom?]
    all_goals simp_all [setSlot]

section Spelled

variable {phrase : Phrase} {family : String} {args : List String}

theorem decodeArgs_eq_some {digits : List String} {payload : List UInt8}
    (visible : ∀ word ∈ digits, ∀ c ∈ word.toList, Text.isBlank c = false) :
    Hex.decodeArgs digits = some payload ↔ digits ≠ [] ∧
      (digits.flatMap String.toList).map Char.toLower = payload.flatMap Hex.encodeByte := by
  -- Blanks between digits would be left out, but words hold none.
  have spaceless : (digits.flatMap String.toList).filter (· ≠ ' ') = digits.flatMap String.toList := by
    rw [List.filter_eq_self]
    intro c member
    obtain ⟨word, word_mem, c_mem⟩ := List.mem_flatMap.mp member
    have seen := visible word word_mem c c_mem
    rw [decide_eq_true_eq]
    rintro rfl
    exact absurd seen (by decide)
  rw [Hex.decodeArgs, spaceless]
  cases digits with
  | nil => simp
  | cons first others => simp [Hex.decodeChars_eq_some]

theorem rawExchange_eq_ok {digits : List String} {command : Command}
    (visible : ∀ word ∈ digits, ∀ c ∈ word.toList, Text.isBlank c = false) :
    phrase.rawExchange digits = .ok command ↔ digits ≠ [] ∧ ∃ payload, command = ⟨.rawExchange, payload⟩ ∧
      (digits.flatMap String.toList).map Char.toLower = payload.flatMap Hex.encodeByte := by
  unfold rawExchange
  constructor
  · intro ok
    split at ok
    · rename_i payload decoded
      cases ok
      obtain ⟨nonempty, spelled⟩ := (decodeArgs_eq_some visible).mp decoded
      exact ⟨nonempty, payload, rfl, spelled⟩
    · cases ok
  · rintro ⟨nonempty, payload, rfl, spelled⟩
    rw [(decodeArgs_eq_some visible).mpr ⟨nonempty, spelled⟩]
    rfl

theorem setSlot_eq_ok {command : Command} : phrase.setSlot args = .ok command ↔ ∃ name others n,
    args = name :: others ∧ Text.IsNumeral name.toList (n : Nat) ∧ n ≤ 7 ∧ command = ⟨.setSlot, [UInt8.ofNat n]⟩ := by
  unfold setSlot
  constructor
  · intro ok
    split at ok
    · cases ok
    · rename_i name others
      split at ok
      · rename_i slot read
        cases ok
        refine ⟨name, others, slot.number.toNat, rfl, Wire.Slot.ofText_eq_ok.mp read, slot.number_le, ?_⟩
        rw [UInt8.ofNat_toNat, Command.setSlot]
      · cases ok
  · rintro ⟨name, others, n, rfl, numeral, small, rfl⟩
    obtain ⟨slot, number, value⟩ := Wire.Slot.exists_of_le small
    simp only [Wire.Slot.ofText_eq_ok.mpr (value.symm ▸ numeral), Command.setSlot, number]

theorem command_eq_ok {command : Command} (visible : ∀ word ∈ args, ∀ c ∈ word.toList, Text.isBlank c = false) :
    (⟨Text.lower family, args⟩ : Phrase).command = .ok command ↔ Spells (family :: args) command := by
  constructor
  · intro ok
    unfold Phrase.command at ok
    split at ok
    case h_1 hw whole | h_2 hw whole =>
      obtain rfl : args = _ := whole
      cases ok
      exact .version hw (by simp)
    case h_3 hf whole =>
      obtain rfl : args = _ := whole
      cases ok
      exact .search hf
    case h_4 hf whole | h_5 hf whole =>
      obtain rfl : args = _ := whole
      cases ok
      exact .scan hf (by simp)
    case h_6 digits hf whole =>
      obtain rfl : args = _ := whole
      have later : ∀ word ∈ digits, ∀ c ∈ word.toList, Text.isBlank c = false :=
        fun word member => visible word (by simp [member])
      obtain ⟨nonempty, payload, rfl, spelled⟩ := (rawExchange_eq_ok later).mp ok
      exact .raw hf nonempty spelled
    case h_7 data whole =>
      obtain rfl : args = _ := whole
      obtain ⟨name, others, n, rfl, numeral, small, rfl⟩ := setSlot_eq_ok.mp ok
      exact .slot data numeral small
    case h_8 => cases ok
  · intro spells
    unfold Phrase.command
    cases spells with
    | version hw asks => rcases asks with rfl | rfl <;> (simp only [hw]; rfl)
    | search hf => simp only [hf]; rfl
    | scan hf asks => rcases asks with rfl | rfl <;> (simp only [hf]; rfl)
    | @raw _ digits payload hf nonempty spelled =>
      have later : ∀ word ∈ digits, ∀ c ∈ word.toList, Text.isBlank c = false :=
        fun word member => visible word (by simp [member])
      simp only [hf]
      exact (rawExchange_eq_ok later).mpr ⟨nonempty, payload, rfl, spelled⟩
    | slot data numeral small =>
      simp only [data]
      exact setSlot_eq_ok.mpr ⟨_, _, _, rfl, numeral, small, rfl⟩

theorem command_refused {error : MappingError} (refused : (⟨Text.lower family, args⟩ : Phrase).command = .error error) :
    (HasHead (family :: args) ∧ ∃ command reason, error = .invalidArgument command reason) ∨
      (¬ HasHead (family :: args) ∧ ∃ command, error = .unsupported command) := by
  unfold Phrase.command at refused
  split at refused
  case h_6 digits hf whole =>
    obtain rfl : args = _ := whole
    unfold rawExchange at refused
    split at refused
    · cases refused
    · cases refused
      exact .inl ⟨.raw hf, _, _, rfl⟩
  case h_7 others data whole =>
    obtain rfl : args = _ := whole
    unfold setSlot at refused
    refine .inl ⟨.slot data, ?_⟩
    split at refused
    · cases refused
      exact ⟨_, _, rfl⟩
    · split at refused
      · cases refused
      · cases refused
        exact ⟨_, _, rfl⟩
  case h_8 none =>
    -- The heads are taken by the two cases before.
    cases refused
    refine .inr ⟨?_, _, rfl⟩
    rintro (hf | data)
    · simp_all
    · simp_all
  all_goals cases refused

end Spelled

end Phrase

theorem runs_iff {line : String} {words : List String} :
    Text.InWords line.toList (words.map String.toList) ↔ words = Text.words line := by
  rw [Text.inWords_iff, Text.words]
  constructor
  · intro cut
    simp [cut, List.map_map, Function.comp_def]
  · rintro rfl
    simp [List.map_map, Function.comp_def]

theorem words_visible {line word : String} (member : word ∈ Text.words line) :
    word.toList ≠ [] ∧ ∀ c ∈ word.toList, Text.isBlank c = false :=
  (runs_iff.mpr rfl).word_visible _ (List.mem_map_of_mem member)

/-- How the words of a line decide what it is translated to. -/
structure Translated (line : String) (words : List String) : Prop where
  runs : ∀ others : List String, Text.InWords line.toList (others.map String.toList) ↔ others = words
  command : ∀ command, translation line = some (.ok command) ↔ Spells words command
  invalid : (∃ command reason, translation line = some (.error (.invalidArgument command reason))) ↔
    HasHead words ∧ ∀ command, ¬ Spells words command
  unsupported : (∃ command, translation line = some (.error (.unsupported command))) ↔
    words ≠ [] ∧ ¬ HasHead words ∧ ∀ command, ¬ Spells words command
  blank : translation line = none ↔ words = []
  payload : ∀ bytes, translation line = some (.ok ⟨.rawExchange, bytes⟩) → bytes ≠ []
  within : ∀ phrase, Phrase.ofLine? line = some phrase → phrase.commandByIndex? = translation line

section Lines

variable {line family : String} {args : List String}

theorem not_spells_nil (command : Command) : ¬ Spells [] command := nofun

theorem translation_cons (words : Text.words line = family :: args) :
    translation line = some (⟨Text.lower family, args⟩ : Phrase).command := by
  rw [translation, Phrase.ofLine?, words]
  rfl

theorem translation_eq_ok (words : Text.words line = family :: args) (command : Command) :
    translation line = some (.ok command) ↔ Spells (family :: args) command := by
  have visible : ∀ word ∈ args, ∀ c ∈ word.toList, Text.isBlank c = false :=
    fun word member => (words_visible (words ▸ List.mem_cons_of_mem family member)).2
  rw [translation_cons words, Option.some.injEq, Phrase.command_eq_ok visible]

theorem translation_refused (words : Text.words line = family :: args) (error : MappingError)
    (refused : translation line = some (.error error)) : (∀ command, ¬ Spells (family :: args) command) ∧
      ((HasHead (family :: args) ∧ ∃ command reason, error = .invalidArgument command reason) ∨
        (¬ HasHead (family :: args) ∧ ∃ command, error = .unsupported command)) := by
  refine ⟨fun command spells => ?_, ?_⟩
  · rw [(translation_eq_ok words command).mpr spells] at refused
    cases refused
  · rw [translation_cons words, Option.some.injEq] at refused
    exact Phrase.command_refused refused

theorem translation_of_unspelled (words : Text.words line = family :: args)
    (unspelled : ∀ command, ¬ Spells (family :: args) command) : ∃ error, translation line = some (.error error) := by
  cases translated : (⟨Text.lower family, args⟩ : Phrase).command with
  | ok command =>
    have spells := (translation_eq_ok words command).mp (by rw [translation_cons words, translated])
    exact absurd spells (unspelled command)
  | error error => exact ⟨error, by rw [translation_cons words, translated]⟩

theorem raw_payload (words : Text.words line = family :: args) {bytes : List UInt8}
    (spells : Spells (family :: args) ⟨.rawExchange, bytes⟩) : bytes ≠ [] := by
  rintro rfl
  cases spells with
  | @raw _ digits _ hf nonempty spelled =>
    obtain ⟨first, others, rfl⟩ := List.exists_cons_of_ne_nil nonempty
    have visible := (words_visible (words ▸ by simp : first ∈ Text.words line)).1
    simp only [List.flatMap_nil, List.map_eq_nil_iff, List.flatMap_cons, List.append_eq_nil_iff] at spelled
    exact visible spelled.1

theorem translated_of_blank (words : Text.words line = []) : Translated line [] := by
  have none : translation line = none := by
    rw [translation, Phrase.ofLine?, words]
    rfl
  have noHead : ¬ HasHead [] := by
    intro head
    cases head
  constructor
  case runs => exact fun others => by rw [runs_iff, words]
  case command => exact fun command => by simp [none, not_spells_nil]
  case invalid => simp [none, noHead]
  case unsupported => simp [none]
  case blank => simp [none]
  case payload => simp [none]
  case within => simp [Phrase.ofLine?, words]

theorem translated_of_words (words : Text.words line = family :: args) : Translated line (family :: args) := by
  have translates := translation_eq_ok words
  constructor
  case runs => exact fun others => by rw [runs_iff, words]
  case command => exact translates
  case invalid =>
    constructor
    · rintro ⟨command, reason, refused⟩
      obtain ⟨unspelled, ⟨head, -⟩ | ⟨-, _, other⟩⟩ := translation_refused words _ refused
      · exact ⟨head, unspelled⟩
      · cases other
    · rintro ⟨head, unspelled⟩
      obtain ⟨error, refused⟩ := translation_of_unspelled words unspelled
      obtain ⟨-, ⟨-, command, reason, rfl⟩ | ⟨headless, -⟩⟩ := translation_refused words _ refused
      · exact ⟨command, reason, refused⟩
      · exact absurd head headless
  case unsupported =>
    constructor
    · rintro ⟨command, refused⟩
      obtain ⟨unspelled, ⟨-, _, _, other⟩ | ⟨headless, -⟩⟩ := translation_refused words _ refused
      · cases other
      · exact ⟨by simp, headless, unspelled⟩
    · rintro ⟨-, headless, unspelled⟩
      obtain ⟨error, refused⟩ := translation_of_unspelled words unspelled
      obtain ⟨-, ⟨head, -⟩ | ⟨-, command, rfl⟩⟩ := translation_refused words _ refused
      · exact absurd head headless
      · exact ⟨command, refused⟩
  case blank => simp [translation_cons words]
  case payload => exact fun bytes translated => raw_payload words ((translates _).mp translated)
  case within =>
    intro phrase found
    rw [translation, found, phrase.commandByIndex?_eq]
    rfl

/-- The lines that are translated are those of the grammar. -/
theorem line_translated (line : String) : Translated line (Text.words line) := by
  cases words : Text.words line with
  | nil => exact translated_of_blank words
  | cons family args => exact translated_of_words words

end Lines

end TagConsole.Dialect
