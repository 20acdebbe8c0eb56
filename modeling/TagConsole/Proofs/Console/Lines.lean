import TagConsole.Console.Session
import TagConsole.Proofs.Dialect.Phrases

/-!
What one typed line makes of a console. A line is blank, or the console answers it by itself, or one of the checks
of its phrase fails, or it asks the device for something.
-/

namespace TagConsole.Console

open Dialect (Phrase)

section Own

variable {line : String} {answer : List Line} {directive : Directive}

def ownWords : List String := ["help", "clear", "cls", "quit", "exit"]

def IsOwn (line : String) : Prop :=
  Text.lower line ∈ ownWords ∨ Text.isPrefixOf "help " (Text.lower line) = true

theorem ownAnswer_eq_none : ownAnswer line = none ↔ ¬ IsOwn line := by
  unfold ownAnswer IsOwn ownWords Text.dropStart?
  split <;> simp_all

theorem ownAnswer_directive (own : ownAnswer line = some (answer, directive)) :
    (directive = .clear ↔ Text.lower line ∈ ["clear", "cls"]) ∧
      (directive = .quit ↔ Text.lower line ∈ ["quit", "exit"]) := by
  unfold ownAnswer at own
  split at own
  case h_6 other =>
    obtain ⟨topic, -, same⟩ := Option.map_eq_some_iff.mp own
    cases same
    simp_all
  all_goals
    rename_i word
    cases own
    simp [word]

theorem ownAnswer_blank {input : String} (blank : Phrase.ofLine? input = none) : ownAnswer (Text.trim input) = none := by
  rw [Phrase.ofLine?_eq_none, String.isEmpty_iff] at blank
  rw [blank]
  rfl

theorem not_clear_or_quit (own : ownAnswer line = none) :
    Text.lower line ∉ ["clear", "cls"] ∧ Text.lower line ∉ ["quit", "exit"] := by
  have words := ownAnswer_eq_none.mp own
  simp only [IsOwn, ownWords, List.mem_cons, List.not_mem_nil, or_false, not_or] at words ⊢
  exact ⟨⟨words.1.2.1, words.1.2.2.1⟩, words.1.2.2.2⟩

theorem ownAnswer_cleared (own : ownAnswer line = some (answer, .clear)) : answer = clearedLines := by
  unfold ownAnswer at own
  split at own
  case h_6 => simp at own
  all_goals cases own
  all_goals rfl

theorem ownAnswer_device {input : String} {phrase : Phrase} (found : Phrase.ofLine? input = some phrase)
    (device : phrase.keyword ∈ Dialect.deviceKeywords) : ownAnswer (Text.trim input) = none := by
  have begins := Phrase.line_begins found device
  have words : ∀ keyword ∈ Dialect.deviceKeywords, ∀ word ∈ ownWords, ¬ keyword.toList <+: word.toList := by decide
  have topic : ∀ keyword ∈ Dialect.deviceKeywords, ¬ keyword.toList <+: "help ".toList ∧
      ¬ "help ".toList <+: keyword.toList := by decide
  -- the line begins with its keyword, which neither begins a word of the console's nor continues one
  rw [ownAnswer_eq_none]
  rintro (word | help)
  · exact words _ device _ word begins
  · rcases List.prefix_or_prefix_of_prefix begins (List.isPrefixOf_iff_prefix.mp help) with shorter | longer
    · exact (topic _ device).1 shorter
    · exact (topic _ device).2 longer

end Own

section Checks

variable {isConnected : Bool} {phrase : Phrase} {failure : Failure}

/-- The first check that a phrase fails, and the failure that tells of it. -/
inductive Refused (isConnected : Bool) (phrase : Phrase) : Failure → Prop where
  | unknown (unknown : Dialect.isKnown phrase.keyword = false) :
      Refused isConnected phrase (.unknownCommand phrase.keyword [])
  | notConnected (known : Dialect.isKnown phrase.keyword = true) (isClosed : isConnected = false) :
      Refused isConnected phrase .notConnected
  | unsupported {cause} (known : Dialect.isKnown phrase.keyword = true) (isOpen : isConnected = true)
      (untranslated : phrase.command = .error cause) : Refused isConnected phrase (.unsupported phrase.text)

theorem Refused.not_command {command : Wire.Command} (refused : Refused isConnected phrase failure)
    (isOpen : isConnected = true) (ok : phrase.command = .ok command) : False := by
  cases refused with
  | unknown unknown => simp [Dialect.isKnown_device (Phrase.keyword_of_command ok)] at unknown
  | notConnected known isClosed => simp [isOpen] at isClosed
  | unsupported known isOpen untranslated => simp [ok] at untranslated

theorem Refused.unique {other : Failure} (first : Refused isConnected phrase failure)
    (second : Refused isConnected phrase other) : failure = other := by
  cases first with
  | unknown unknown =>
    cases second with
    | unknown => rfl
    | notConnected known => simp [unknown] at known
    | unsupported known => simp [unknown] at known
  | notConnected known isClosed =>
    cases second with
    | unknown unknown => simp [known] at unknown
    | notConnected => rfl
    | unsupported _ isOpen => simp [isClosed] at isOpen
  | unsupported known isOpen =>
    cases second with
    | unknown unknown => simp [known] at unknown
    | notConnected _ isClosed => simp [isOpen] at isClosed
    | unsupported => rfl

theorem Refused.failureLines (refused : Refused isConnected phrase failure) :
    failureLines failure = [⟨.error, failure.message⟩] := by
  cases refused <;> rfl

theorem commandOf_cases (isConnected : Bool) {line : String} (found : Phrase.ofLine? line = some phrase) :
    (∃ failure, commandOf isConnected line = .error failure ∧ Refused isConnected phrase failure) ∨
      ∃ command, commandOf isConnected line = .ok (phrase, command) ∧ isConnected = true ∧
        phrase.command = .ok command := by
  unfold commandOf
  simp only [found, Option.elim_some, bind, Except.bind]
  cases known : Dialect.isKnown phrase.keyword with
  | false =>
    rw [Dialect.suggest_eq_nil_iff.mpr known]
    exact .inl ⟨_, rfl, .unknown known⟩
  | true =>
    cases isConnected with
    | false => exact .inl ⟨_, rfl, .notConnected known rfl⟩
    | true =>
      cases translated : phrase.command with
      | error cause => exact .inl ⟨_, rfl, .unsupported known rfl translated⟩
      | ok command => exact .inr ⟨command, rfl, rfl, rfl⟩

end Checks

section Entered

variable (console : Console) (isConnected : Bool) (input : String)

def echo : Line := ⟨.command, console.config.prompt ++ Text.trim input⟩

def noted : Console :=
  { console.display [console.echo input] with history := console.history.push (Text.trim input) }

def executing (phrase : Phrase) : Line := ⟨.info, "Executing: " ++ phrase.text⟩

inductive Entered : Step → Console → Prop where
  | blank (blank : Phrase.ofLine? input = none) : Entered (.done {}) console
  | clears (own : ownAnswer (Text.trim input) = some (clearedLines, .clear)) :
      Entered (.done ⟨console.echo input :: clearedLines, .clear⟩) (console.noted input).clear.2
  | answers {lines directive} (own : ownAnswer (Text.trim input) = some (lines, directive))
      (keeps : directive ≠ .clear) :
      Entered (.done ⟨console.echo input :: lines, directive⟩) ((console.noted input).display lines)
  | fails {phrase failure} (found : Phrase.ofLine? input = some phrase) (own : ownAnswer (Text.trim input) = none)
      (refused : Refused isConnected phrase failure) :
      Entered (.done ⟨[console.echo input, ⟨.error, failure.message⟩], .proceed⟩)
        ((console.noted input).display [⟨.error, failure.message⟩])
  | asks {phrase command} (found : Phrase.ofLine? input = some phrase) (own : ownAnswer (Text.trim input) = none)
      (isOpen : isConnected = true) (ok : phrase.command = .ok command) :
      Entered (.request command [console.echo input, executing phrase])
        ((console.noted input).display [executing phrase])

variable {console isConnected input}

theorem entered {step : Step} {after : Console} (leads : console.enter isConnected input = (step, after)) :
    Entered console isConnected input step after := by
  cases blank : (Text.trim input).isEmpty with
  | true =>
    have done : console.enter isConnected input = (.done {}, console) := by simp [enter, blank]
    cases done.symm.trans leads
    exact .blank (Phrase.ofLine?_eq_none.mpr blank)
  | false =>
    cases own : ownAnswer (Text.trim input) with
    | some answer =>
      obtain ⟨lines, directive⟩ := answer
      by_cases clears : directive = .clear
      · subst clears
        obtain rfl := ownAnswer_cleared own
        have done : console.enter isConnected input =
            (.done ⟨console.echo input :: clearedLines, .clear⟩, (console.noted input).clear.2) := by
          simp [enter, blank, own, echo, noted, clear]
        cases done.symm.trans leads
        exact .clears own
      · have done : console.enter isConnected input =
            (.done ⟨console.echo input :: lines, directive⟩, (console.noted input).display lines) := by
          cases directive with
          | clear => exact absurd rfl clears
          | _ => simp [enter, blank, own, echo, noted]
        cases done.symm.trans leads
        exact .answers own clears
    | none =>
      cases found : Phrase.ofLine? input with
      | none => simp [Phrase.ofLine?_eq_none.mp found] at blank
      | some phrase =>
        rcases commandOf_cases isConnected ((Phrase.ofLine?_trim input).trans found) with
          ⟨failure, failed, refused⟩ | ⟨command, passed, isOpen, ok⟩
        · have done : console.enter isConnected input =
              (.done ⟨[console.echo input, ⟨.error, failure.message⟩], .proceed⟩,
                (console.noted input).display [⟨.error, failure.message⟩]) := by
            simp [enter, blank, own, failed, refused.failureLines, echo, noted]
          cases done.symm.trans leads
          exact .fails found own refused
        · have asks : console.enter isConnected input =
              (.request command [console.echo input, executing phrase],
                (console.noted input).display [executing phrase]) := by
            simp [enter, blank, own, passed, echo, noted, executing]
          cases asks.symm.trans leads
          exact .asks found own isOpen ok

theorem Entered.directive {execution : Execution} {after : Console}
    (entered : Entered console isConnected input (.done execution) after) :
    (execution.directive = .clear ↔ Text.lower (Text.trim input) ∈ ["clear", "cls"]) ∧
      (execution.directive = .quit ↔ Text.lower (Text.trim input) ∈ ["quit", "exit"]) := by
  cases entered with
  | blank blank => simpa using not_clear_or_quit (ownAnswer_blank blank)
  | clears own => exact ownAnswer_directive own
  | answers own => exact ownAnswer_directive own
  | fails found own => simpa using not_clear_or_quit own

theorem Entered.refused {execution : Execution} {after : Console} {phrase : Phrase}
    (entered : Entered console isConnected input (.done execution) after)
    (found : Phrase.ofLine? input = some phrase) (own : ownAnswer (Text.trim input) = none) :
    ∃ failure, Refused isConnected phrase failure ∧
      execution = ⟨[console.echo input, ⟨.error, failure.message⟩], .proceed⟩ := by
  cases entered with
  | blank blank => simp [blank] at found
  | clears own' => simp [own] at own'
  | answers own' => simp [own] at own'
  | fails found' own refused =>
    obtain rfl := Option.some.inj (found.symm.trans found')
    exact ⟨_, refused, rfl⟩

end Entered

end TagConsole.Console
