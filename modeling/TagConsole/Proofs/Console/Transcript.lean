import TagConsole.Proofs.Console.History
import TagConsole.Proofs.Console.Output

/-!
Transcripts. A console keeps the end of what it has shown since it was last reset, and its history the end of what
was typed; whoever writes down what each call returns knows both.
-/

namespace TagConsole

namespace Console

open Dialect (Phrase)

inductive Change where
  | line (line : Line)
  | reset (lines : List Line)

def Change.apply (limit : Nat) (shown : List Line) : Change → List Line
  | .line added => (shown ++ [added]).rtake limit
  | .reset lines => lines

def Execution.changes (execution : Execution) : List Change :=
  match execution.directive, execution.lines with
  | .clear, echo :: lines => [.line echo, .reset lines]
  | _, lines => lines.map .line

def changesOf (console : Console) : Use → List Change
  | .line s input outcome after => ((console.errand s input).result outcome after).1.changes
  | .record frame => [.line (console.record frame).1]
  | .clear => [.reset console.clear.1]
  | .previous | .next => []

def changes (console : Console) : List Use → List Change
  | [] => []
  | step :: uses => console.changesOf step ++ (console.use step).changes uses

/-- The lines of the latest reset, and those that have come since. -/
structure Transcript where
  base : List Line := welcomeLines
  since : List Line := []

def Transcript.note (transcript : Transcript) : Change → Transcript
  | .line added => { transcript with since := transcript.since ++ [added] }
  | .reset lines => ⟨lines, []⟩

def transcript (config : Config.TerminalSection) (uses : List Use) : Transcript :=
  ((new config).changes uses).foldl Transcript.note {}

/-- What a console with a limit shows of a transcript. A reset is shown whole until the next line comes. -/
def Transcript.shown (limit : Nat) (transcript : Transcript) : List Line :=
  if transcript.since = [] then transcript.base else (transcript.base ++ transcript.since).rtake limit

def Use.typed? : Use → Option String
  | .line _ input _ _ => if (Text.trim input).isEmpty then none else some (Text.trim input)
  | _ => none

def typed (uses : List Use) : List String := uses.filterMap Use.typed?

section Shown

variable {limit : Nat}

theorem Transcript.apply_shown (transcript : Transcript) (change : Change) :
    change.apply limit (transcript.shown limit) = (transcript.note change).shown limit := by
  cases change with
  | reset lines => rfl
  | line added =>
    have new : transcript.since ++ [added] ≠ [] := by simp
    rw [Change.apply, note, shown, shown, if_neg new]
    split
    · rename_i none
      rw [none, List.nil_append]
    · rw [rtake_append_rtake, List.append_assoc]

theorem Transcript.foldl_shown (changes : List Change) (transcript : Transcript) :
    changes.foldl (Change.apply limit) (transcript.shown limit) = (changes.foldl note transcript).shown limit := by
  induction changes generalizing transcript with
  | nil => rfl
  | cons change changes ih => rw [List.foldl_cons, transcript.apply_shown, ih, List.foldl_cons]

theorem display_output (console : Console) (lines : List Line) : (console.display lines).output =
    (lines.map .line).foldl (Change.apply console.config.outputLimit) console.output := by
  -- No lines leave a console as it is, also when it shows more than its limit, so there has to be a first one.
  have each (first : Line) (later shown : List Line) :
      ((first :: later).map .line).foldl (Change.apply console.config.outputLimit) shown =
        (shown ++ first :: later).rtake console.config.outputLimit := by
    induction later generalizing first shown with
    | nil => rfl
    | cons second later ih =>
      rw [List.map_cons, List.foldl_cons, ih, Change.apply, rtake_append_rtake, List.append_assoc]
      rfl
  cases lines with
  | nil => rfl
  | cons first later => exact (each first later console.output).symm

end Shown

section Use

variable {console : Console}

theorem noted_display_output (input : String) (lines : List Line) :
    ((console.noted input).display lines).output =
      ((console.echo input :: lines).map .line).foldl (Change.apply console.config.outputLimit) console.output := by
  rw [display_output, show (console.noted input).config = console.config from display_config _ _, noted,
    display_output]
  rfl

theorem Execution.changes_of_ne_clear {execution : Execution} (keeps : execution.directive ≠ .clear) :
    execution.changes = execution.lines.map .line := by
  unfold Execution.changes
  split
  · contradiction
  · rfl

theorem Entered.output {isConnected : Bool} {input : String} {execution : Execution} {after : Console}
    (entered : Entered console isConnected input (.done execution) after) :
    after.output = execution.changes.foldl (Change.apply console.config.outputLimit) console.output := by
  cases entered with
  | blank => rfl
  | clears own => rfl
  | answers own keeps => rw [Execution.changes_of_ne_clear keeps, noted_display_output]
  | fails found own refused => exact noted_display_output _ _

theorem errand_result (s : Session) (input : String) (outcome : Session.Outcome) (after : Session) :
    (∃ execution entered, console.enter s.isConnected input = (.done execution, entered) ∧
      (console.errand s input).result outcome after = (execution, entered)) ∨
    ∃ command lines entered answer, console.enter s.isConnected input = (.request command lines, entered) ∧
      (console.errand s input).result outcome after = entered.answer lines answer := by
  rw [errand]
  rcases console.enter s.isConnected input with ⟨execution | ⟨command, lines⟩, entered⟩
  · exact .inl ⟨execution, entered, rfl, rfl⟩
  · exact .inr ⟨command, lines, entered, _, rfl, rfl⟩

theorem use_output (step : Use) : (console.use step).output =
    (console.changesOf step).foldl (Change.apply console.config.outputLimit) console.output := by
  cases step with
  | line s input outcome after =>
    rw [use, changesOf]
    rcases console.errand_result s input outcome after with ⟨execution, before, leads, result⟩ |
      ⟨command, lines, before, result, leads, answered⟩
    · rw [result]
      exact (entered leads).output
    · rw [answered]
      cases entered leads with
      | @asks phrase _ found own isOpen ok =>
        rw [answer, Execution.changes_of_ne_clear (by simp), display_output, noted_display_output, display_config,
          show (console.noted input).config = console.config from display_config _ _, ← List.foldl_append,
          ← List.map_append]
  | record frame => exact console.display_output _
  | _ => rfl

theorem run_output (uses : List Use) : (console.run uses).output =
    (console.changes uses).foldl (Change.apply console.config.outputLimit) console.output := by
  induction uses generalizing console with
  | nil => rfl
  | cons step uses ih =>
    rw [changes, List.foldl_append, ← use_output, ← use_config console step]
    exact ih

end Use

section History

variable {console : Console}

@[simp] theorem display_history (lines : List Line) : (console.display lines).history = console.history := by
  cases lines <;> rfl

theorem enter_history (isConnected : Bool) (input : String) : (console.enter isConnected input).2.history =
    if (Text.trim input).isEmpty then console.history else console.history.push (Text.trim input) := by
  cases blank : (Text.trim input).isEmpty with
  | true => simp [enter, blank]
  | false =>
    rcases leads : console.enter isConnected input with ⟨step, after⟩
    cases entered leads with
    | blank none => simp [Phrase.ofLine?_eq_none.mp none] at blank
    | _ => simp [noted, clear]

theorem use_history (step : Use) : (console.use step).history.capacity = console.history.capacity ∧
    (console.use step).history.entries =
      match step.typed? with
      | none => console.history.entries
      | some line => (console.history.push line).entries := by
  cases step with
  | line s input outcome after =>
    have same : (console.use (.line s input outcome after)).history =
        (console.enter s.isConnected input).2.history := by
      rcases console.use_line s input outcome after with done | ⟨answer, answered⟩
      · rw [done]
      · rw [answered, display_history]
    rw [same, enter_history, Use.typed?]
    split <;> exact ⟨rfl, rfl⟩
  | record frame =>
    rw [use, record, display_history]
    exact ⟨rfl, rfl⟩
  | clear => exact ⟨rfl, rfl⟩
  | previous =>
    rw [use, History.previous]
    split <;> exact ⟨rfl, rfl⟩
  | next =>
    rw [use, History.next]
    split
    · exact ⟨rfl, rfl⟩
    · split <;> exact ⟨rfl, rfl⟩

@[simp] theorem run_cons (step : Use) (uses : List Use) :
    console.run (step :: uses) = (console.use step).run uses := rfl

theorem run_history {lines : List String} (known : console.history.entries = lines.rtake console.history.capacity)
    (uses : List Use) :
    (console.run uses).history.entries = (lines ++ typed uses).rtake console.history.capacity := by
  induction uses generalizing console lines with
  | nil => simpa [run, typed] using known
  | cons step uses ih =>
    -- What was pushed out is not known from the entries, so all that was typed before goes through the induction.
    obtain ⟨capacity, entries⟩ := console.use_history step
    rw [← capacity]
    rw [← capacity] at known
    cases none : step.typed? with
    | none =>
      simp only [none] at entries
      simpa [typed, none] using ih (entries.trans known)
    | some line =>
      simp only [none] at entries
      have known : (console.use step).history.entries =
          (lines ++ [line]).rtake (console.use step).history.capacity := by
        rw [entries, ← rtake_append_rtake, ← known, capacity]
        rfl
      simpa [typed, none] using ih known

end History

section Prompt

variable {console other : Console}

theorem enter_congr (same : console.config.prompt = other.config.prompt) (isConnected : Bool) (input : String) :
    (console.enter isConnected input).1 = (other.enter isConnected input).1 := by
  simp only [enter, same]
  split
  · rfl
  · split
    · rfl
    · rfl
    · split <;> rfl

theorem changesOf_congr (same : console.config.prompt = other.config.prompt) (step : Use) :
    console.changesOf step = other.changesOf step := by
  cases step with
  | line s input outcome after =>
    have leads := enter_congr same s.isConnected input
    rw [changesOf, changesOf, errand, errand]
    -- Entering the line comes to the same on both, so the request and the lines in front of its answer agree.
    generalize console.enter s.isConnected input = first at leads ⊢
    generalize other.enter s.isConnected input = second at leads ⊢
    obtain ⟨step, entered⟩ := first
    obtain ⟨_, entered'⟩ := second
    obtain rfl := leads
    cases step <;> rfl
  | _ => rfl

/-- Callers are told the same by consoles that differ in their limits only. -/
theorem changes_congr (same : console.config.prompt = other.config.prompt) (uses : List Use) :
    console.changes uses = other.changes uses := by
  induction uses generalizing console other with
  | nil => rfl
  | cons step uses ih =>
    have later : (console.use step).config.prompt = (other.use step).config.prompt := by
      rw [use_config, use_config, same]
    rw [changes, changes, changesOf_congr same, ih later]

end Prompt

section Concat

variable {console : Console} (uses : List Use) (step : Use)

theorem run_concat : console.run (uses ++ [step]) = (console.run uses).use step := by
  rw [run, List.foldl_concat, ← run]

theorem changes_concat :
    console.changes (uses ++ [step]) = console.changes uses ++ (console.run uses).changesOf step := by
  induction uses generalizing console with
  | nil => simp [changes, run]
  | cons first uses ih =>
    rw [List.cons_append, changes, ih, changes, List.append_assoc]
    rfl

theorem transcript_concat (config : Config.TerminalSection) : transcript config (uses ++ [step]) =
    (((new config).run uses).changesOf step).foldl Transcript.note (transcript config uses) := by
  rw [transcript, changes_concat, List.foldl_append, ← transcript]

theorem Transcript.note_lines (transcript : Transcript) (lines : List Line) :
    (lines.map .line).foldl note transcript = { transcript with since := transcript.since ++ lines } := by
  induction lines generalizing transcript with
  | nil => simp
  | cons line lines ih => simp [ih, note]

end Concat

/-- What the callers of a console were told is what it has shown. -/
structure Transcribed (config : Config.TerminalSection) (uses : List Use) : Prop where
  output : ((new config).run uses).output = (transcript config uses).shown config.outputLimit
  whole : ∀ limit, ((transcript config uses).base ++ (transcript config uses).since).length ≤ limit →
    ((new { config with outputLimit := limit }).run uses).output =
      (transcript config uses).base ++ (transcript config uses).since
  history : ((new config).run uses).history.entries = (typed uses).rtake (max config.historySize 1)
  blank : ∀ s input outcome after, (∀ c ∈ input.toList, Text.isBlank c = true) →
    (((new config).run uses).errand s input).result outcome after = ({}, (new config).run uses)
  /-- A line adds what it returns, or it clears: then its echo comes first, and the rest is the new base. -/
  line : ∀ s input outcome after execution console,
    (((new config).run uses).errand s input).result outcome after = (execution, console) →
    console = (new config).run (uses ++ [.line s input outcome after]) ∧
    ((execution.directive = .clear ∧ execution.lines = ⟨.command, config.prompt ++ Text.trim input⟩ :: clearedLines ∧
        transcript config (uses ++ [.line s input outcome after]) = ⟨clearedLines, []⟩) ∨
      (execution.directive ≠ .clear ∧ transcript config (uses ++ [.line s input outcome after]) =
        ⟨(transcript config uses).base, (transcript config uses).since ++ execution.lines⟩))
  record : ∀ frame, transcript config (uses ++ [.record frame]) = ⟨(transcript config uses).base,
    (transcript config uses).since ++ [(((new config).run uses).record frame).1]⟩
  clear : ((new config).run uses).clear.1 = clearedLines ∧
    transcript config (uses ++ [.clear]) = ⟨clearedLines, []⟩
  walk : transcript config (uses ++ [.previous]) = transcript config uses ∧
    transcript config (uses ++ [.next]) = transcript config uses
  executes : ∀ s input, ∃ outcome after,
    ((((new config).run uses).execute s input).1, (((new config).run uses).execute s input).2.1) =
      (((new config).run uses).errand s input).result outcome after

theorem run_shown (config : Config.TerminalSection) (uses : List Use) :
    ((new config).run uses).output = (transcript config uses).shown config.outputLimit := by
  rw [run_output, transcript, ← Transcript.foldl_shown]
  rfl

theorem Transcript.shown_whole {limit : Nat} (transcript : Transcript)
    (fits : (transcript.base ++ transcript.since).length ≤ limit) :
    transcript.shown limit = transcript.base ++ transcript.since := by
  unfold shown
  split
  · rename_i none
    rw [none, List.append_nil]
  · rw [List.rtake, Nat.sub_eq_zero_of_le fits, List.drop_zero]

theorem errand_blank (console : Console) (s : Session) {input : String} (outcome : Session.Outcome) (after : Session)
    (blank : ∀ c ∈ input.toList, Text.isBlank c = true) :
    (console.errand s input).result outcome after = ({}, console) := by
  have empty : (Text.trim input).isEmpty = true := by
    rw [Text.trim_isEmpty_iff, Text.words, Text.wordsOf_eq_nil.mpr blank]
    rfl
  have leads : console.enter s.isConnected input = (.done {}, console) := by simp [enter, empty]
  rw [errand, leads]
  rfl

theorem execute_result (console : Console) (s : Session) (input : String) : ∃ outcome after,
    ((console.execute s input).1, (console.execute s input).2.1) = (console.errand s input).result outcome after := by
  rw [execute]
  cases console.errand s input with
  | done result => exact ⟨.done, s, rfl⟩
  | call operation conclude => exact ⟨(s.perform operation).1, (s.perform operation).2, rfl⟩

theorem errand_clears (console : Console) (s : Session) {input : String} {outcome : Session.Outcome} {after : Session}
    (clears : ((console.errand s input).result outcome after).1.directive = .clear) :
    ((console.errand s input).result outcome after).1.lines = console.echo input :: clearedLines := by
  rcases console.errand_result s input outcome after with ⟨execution, before, leads, result⟩ |
    ⟨command, lines, before, result, leads, answered⟩
  · rw [result] at clears ⊢
    cases entered leads with
    | clears own => rfl
    | answers own keeps => exact absurd clears keeps
    | _ => cases clears
  · rw [answered] at clears
    cases clears

theorem transcribed (config : Config.TerminalSection) (uses : List Use) : Transcribed config uses where
  output := run_shown config uses
  whole limit fits := by
    have prompt : (new { config with outputLimit := limit }).config.prompt = (new config).config.prompt := rfl
    -- The larger console tells its callers the same, so both have one transcript.
    have told := changes_congr prompt uses
    rw [run_shown, transcript, told, ← transcript, Transcript.shown_whole _ fits]
  history := by
    have known : (new config).history.entries = List.rtake [] (new config).history.capacity := (List.rtake_nil _).symm
    exact run_history known uses
  blank s input outcome after blank := errand_blank _ s outcome after blank
  line s input outcome after execution console result := by
    have told : ((new config).run uses).changesOf (.line s input outcome after) = execution.changes := by
      rw [changesOf, result]
    refine ⟨by rw [run_concat, use, result], ?_⟩
    rw [transcript_concat, told]
    by_cases clears : execution.directive = .clear
    · have lines := errand_clears ((new config).run uses) s (by rw [result]; exact clears)
      rw [result] at lines
      refine .inl ⟨clears, ?_, ?_⟩
      · rw [lines, echo, run_config]
        rfl
      · rw [Execution.changes, clears, lines]
        rfl
    · exact .inr ⟨clears, by rw [Execution.changes_of_ne_clear clears, Transcript.note_lines]⟩
  record frame := transcript_concat uses (.record frame) config
  clear := ⟨rfl, transcript_concat uses .clear config⟩
  walk := ⟨transcript_concat uses .previous config, transcript_concat uses .next config⟩
  executes := execute_result _

end Console

end TagConsole
