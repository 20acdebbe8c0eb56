import TagConsole.Proofs.Console.Transcript
import TagConsole.Proofs.Dialect.Suggestions

/-!
Hints. A command is unknown only where the catalog has nothing to suggest, so no console ever asks what was meant.
-/

namespace TagConsole.Console

open Dialect (Phrase)

def Line.IsHint (line : Line) : Prop := line.kind = .info ∧ "Did you mean".toList <+: line.text.toList

instance (line : Line) : Decidable line.IsHint := inferInstanceAs (Decidable (_ ∧ _))

theorem Line.not_isHint {line : Line} (other : line.kind ≠ .info) : ¬ line.IsHint := fun hint => other hint.1

def Step.lines : Step → List Line
  | .done execution => execution.lines
  | .request _ lines => lines

def Change.lines : Change → List Line
  | .line added => [added]
  | .reset lines => lines

section Failures

variable {isConnected : Bool} {line keyword : String} {suggestions : List String}

theorem commandOf_unknown (unknown : commandOf isConnected line = .error (.unknownCommand keyword suggestions)) :
    suggestions = [] ∧ Dialect.isKnown keyword = false := by
  cases found : Phrase.ofLine? line with
  | none =>
    rw [commandOf, found] at unknown
    cases unknown
  | some phrase =>
    rcases commandOf_cases isConnected found with ⟨failure, failed, refused⟩ | ⟨command, passed, -⟩
    · cases failed.symm.trans unknown
      cases refused with
      | unknown none => exact ⟨rfl, none⟩
    · cases passed.symm.trans unknown

theorem isHint_of_hint {failure : Failure} {text : String} (hint : failure.hint = some text) :
    Line.IsHint ⟨.info, text⟩ := by
  cases failure with
  | unknownCommand keyword suggestions =>
    cases suggestions with
    | nil => cases hint
    | cons first others =>
      cases hint
      have begins : "Did you mean".toList <+: "Did you mean: ".toList := by decide
      refine ⟨rfl, ?_⟩
      rw [String.toList_append]
      exact begins.trans (List.prefix_append _ _)
  | _ => cases hint

theorem hint_ofDevice (error : Device.Error) : (Failure.ofDevice error).hint = none := by
  cases error with
  | session cause => cases cause <;> rfl
  | _ => rfl

end Failures

section Lines

variable {console : Console} {line : Line}

theorem describe_not_isHint (topic : String) : ¬ Line.IsHint ⟨.info, Dialect.describe topic⟩ := by
  unfold Dialect.describe
  split <;> decide

theorem executing_not_isHint (phrase : Phrase) : ¬ (executing phrase).IsHint := by
  rintro ⟨-, begins⟩
  have word : "Did you mean".toList = 'D' :: "id you mean".toList := by decide
  have text : (executing phrase).text.toList = 'E' :: ("xecuting: ".toList ++ phrase.text.toList) := by
    simp [executing]
  rw [word, text, List.cons_prefix_cons] at begins
  exact absurd begins.1 (by decide)

theorem ownAnswer_not_isHint {typed : String} {lines : List Line} {directive : Directive}
    (own : ownAnswer typed = some (lines, directive)) : ∀ line ∈ lines, ¬ line.IsHint := by
  unfold ownAnswer at own
  split at own
  case h_6 =>
    obtain ⟨topic, -, same⟩ := Option.map_eq_some_iff.mp own
    cases same
    rw [List.forall_mem_singleton]
    exact describe_not_isHint _
  all_goals
    cases own
    decide +kernel

theorem answerLines_not_isHint (answer : Except Device.Error Wire.Reply) : ∀ line ∈ answerLines answer, ¬ line.IsHint := by
  cases answer with
  | ok reply =>
    rw [answerLines, List.forall_mem_singleton]
    exact Line.not_isHint (by simp)
  | error error =>
    rw [answerLines, failureLines, hint_ofDevice, Option.toList_none, List.map_nil, List.forall_mem_singleton]
    exact Line.not_isHint (by simp)

theorem echo_not_isHint (input : String) : ¬ (console.echo input).IsHint := Line.not_isHint (by simp [echo])

theorem Entered.not_isHint {isConnected : Bool} {input : String} {step : Step} {after : Console}
    (entered : Entered console isConnected input step after) : ∀ line ∈ step.lines, ¬ line.IsHint := by
  have echo := console.echo_not_isHint input
  cases entered with
  | blank => exact List.forall_mem_nil _
  | clears own => exact List.forall_mem_cons.mpr ⟨echo, ownAnswer_not_isHint own⟩
  | answers own => exact List.forall_mem_cons.mpr ⟨echo, ownAnswer_not_isHint own⟩
  | fails => exact List.forall_mem_cons.mpr ⟨echo, List.forall_mem_singleton.mpr (Line.not_isHint (by simp))⟩
  | asks => exact List.forall_mem_cons.mpr ⟨echo, List.forall_mem_singleton.mpr (executing_not_isHint _)⟩

theorem errand_not_isHint (console : Console) (s : Session) (input : String) (outcome : Session.Outcome) (after : Session) :
    ∀ line ∈ ((console.errand s input).result outcome after).1.lines, ¬ line.IsHint := by
  rcases console.errand_result s input outcome after with ⟨execution, before, leads, result⟩ |
    ⟨command, lines, before, result, leads, answered⟩
  · rw [result]
    exact (entered leads).not_isHint
  · rw [answered, answer, List.forall_mem_append]
    exact ⟨(entered leads).not_isHint, answerLines_not_isHint result⟩

end Lines

section Shown

variable {console : Console} {line : Line}

theorem Execution.mem_of_changes {execution : Execution} {change : Change} (member : change ∈ execution.changes)
    (brought : line ∈ change.lines) : line ∈ execution.lines := by
  unfold Execution.changes at member
  split at member
  · rename_i echo lines _ whole
    rw [whole]
    rcases List.mem_pair.mp member with rfl | rfl
    · rw [List.mem_singleton.mp brought]
      exact List.mem_cons_self
    · exact List.mem_cons_of_mem echo brought
  · obtain ⟨added, listed, rfl⟩ := List.mem_map.mp member
    rwa [List.mem_singleton.mp brought]

theorem changesOf_not_isHint (step : Use) : ∀ change ∈ console.changesOf step, ∀ line ∈ change.lines, ¬ line.IsHint := by
  intro change member line brought
  cases step with
  | line s input outcome after =>
    exact console.errand_not_isHint s input outcome after line (Execution.mem_of_changes member brought)
  | record frame =>
    rw [List.mem_singleton.mp member] at brought
    rw [List.mem_singleton.mp brought]
    exact Line.not_isHint (by simp [Console.record])
  | clear =>
    have cleared : ∀ line ∈ clearedLines, ¬ line.IsHint := by decide
    rw [List.mem_singleton.mp member] at brought
    exact cleared line brought
  | previous => cases member
  | next => cases member

theorem changes_not_isHint (uses : List Use) :
    ∀ change ∈ console.changes uses, ∀ line ∈ change.lines, ¬ line.IsHint := by
  induction uses generalizing console with
  | nil => exact List.forall_mem_nil _
  | cons step uses ih =>
    rw [changes, List.forall_mem_append]
    exact ⟨changesOf_not_isHint step, ih⟩

theorem Change.mem_apply {limit : Nat} {shown : List Line} {change : Change} (member : line ∈ change.apply limit shown) :
    line ∈ shown ∨ line ∈ change.lines := by
  cases change with
  | line added => exact List.mem_append.mp (List.mem_of_mem_drop member)
  | reset lines => exact .inr member

theorem foldl_not_isHint {limit : Nat} {changes : List Change} {shown : List Line}
    (later : ∀ change ∈ changes, ∀ line ∈ change.lines, ¬ line.IsHint) (first : ∀ line ∈ shown, ¬ line.IsHint) :
    ∀ line ∈ changes.foldl (Change.apply limit) shown, ¬ line.IsHint := by
  induction changes generalizing shown with
  | nil => exact first
  | cons change changes ih =>
    rw [List.forall_mem_cons] at later
    exact ih later.2 fun line member => (Change.mem_apply member).elim (first line) (later.1 line)

end Shown

/-- The catalog knows a command exactly if it has something to suggest, and no console suggests anything. -/
structure CatalogAgrees : Prop where
  catalog : ∀ start, Dialect.Suggests start
  unknown : ∀ isConnected line keyword suggestions,
    commandOf isConnected line = .error (.unknownCommand keyword suggestions) →
    suggestions = [] ∧ Dialect.suggest keyword = []
  refused : ∀ console s input phrase, Phrase.ofLine? input = some phrase → ¬ IsOwn (Text.trim input) →
    Dialect.isKnown phrase.keyword = false → ∃ after, Console.errand console s input = .done
      (⟨[⟨.command, console.config.prompt ++ Text.trim input⟩, ⟨.error, "Unknown command: " ++ phrase.keyword⟩],
        .proceed⟩, after)
  /-- Any failure with suggestions would show them in such a line. -/
  hints : ∀ failure text, Failure.hint failure = some text → Line.IsHint ⟨.info, text⟩
  lines : ∀ console s input outcome after,
    ∀ line ∈ ((Console.errand console s input).result outcome after).1.lines, ¬ Line.IsHint line
  records : ∀ console frame, ¬ (Console.record console frame).1.IsHint
  shown : ∀ config uses, ∀ line ∈ ((new config).run uses).output, ¬ Line.IsHint line

theorem catalog_agrees : CatalogAgrees where
  catalog := Dialect.suggests
  unknown isConnected line keyword suggestions failed := by
    obtain ⟨none, unknown⟩ := commandOf_unknown failed
    exact ⟨none, Dialect.suggest_eq_nil_iff.mpr unknown⟩
  refused console s input phrase found foreign unknown := by
    have own := ownAnswer_eq_none.mpr foreign
    have refused : Refused s.isConnected phrase (.unknownCommand phrase.keyword []) := .unknown unknown
    rcases leads : console.enter s.isConnected input with ⟨step, after⟩
    have entered := entered leads
    cases step with
    | done execution =>
      obtain ⟨failure, first, rfl⟩ := entered.refused found own
      obtain rfl := refused.unique first
      refine ⟨after, ?_⟩
      rw [errand, leads]
      rfl
    | request command lines =>
      cases entered with
      | asks found' own' isOpen ok =>
        obtain rfl := Option.some.inj (found.symm.trans found')
        exact (refused.not_command isOpen ok).elim
  hints failure text := isHint_of_hint
  lines := errand_not_isHint
  records console frame := Line.not_isHint (by simp [record])
  shown config uses := by
    have welcome : ∀ line ∈ welcomeLines, ¬ line.IsHint := by decide
    rw [run_output]
    exact foldl_not_isHint (changes_not_isHint uses) welcome

end TagConsole.Console
