import TagConsole.Config.Loading
import TagConsole.Proofs.Console.Lines

/-!
What a console shows. Every line that comes keeps it within its limit; what it shows at first and after it was
cleared are the only texts that may be longer.
-/

namespace TagConsole

def Session.Errand.result {α : Type} (outcome : Outcome) (after : Session) : Errand α → α
  | done result => result
  | call _ conclude => conclude outcome after

namespace Console

open Wire (Frame)

inductive Use where
  | line (s : Session) (input : String) (outcome : Session.Outcome) (after : Session)
  | record (frame : Frame)
  | clear
  | previous
  | next

def use (console : Console) : Use → Console
  | .line s input outcome after => ((console.errand s input).result outcome after).2
  | .record frame => (console.record frame).2
  | .clear => console.clear.2
  | .previous => { console with history := console.history.previous.2 }
  | .next => { console with history := console.history.next.2 }

def run (console : Console) (uses : List Use) : Console := uses.foldl use console

section Config

variable (console : Console)

@[simp] theorem display_config (lines : List Line) : (console.display lines).config = console.config := by
  cases lines <;> rfl

theorem enter_config (isConnected : Bool) (input : String) :
    (console.enter isConnected input).2.config = console.config := by
  rcases leads : console.enter isConnected input with ⟨step, after⟩
  cases entered leads <;> simp [noted, clear]

theorem use_line (s : Session) (input : String) (outcome : Session.Outcome) (after : Session) :
    console.use (.line s input outcome after) = (console.enter s.isConnected input).2 ∨
      ∃ answer, console.use (.line s input outcome after) =
        (console.enter s.isConnected input).2.display (answerLines answer) := by
  rw [use, errand]
  rcases console.enter s.isConnected input with ⟨_ | _, entered⟩
  · exact .inl rfl
  · exact .inr ⟨_, rfl⟩

theorem use_config (step : Use) : (console.use step).config = console.config := by
  cases step with
  | line s input outcome after =>
    rcases console.use_line s input outcome after with done | ⟨answer, answered⟩
    · rw [done, enter_config]
    · rw [answered, display_config, enter_config]
  | record frame => exact console.display_config _
  | _ => rfl

theorem run_config (uses : List Use) : (console.run uses).config = console.config := by
  induction uses generalizing console with
  | nil => rfl
  | cons step uses ih => exact (ih (console.use step)).trans (console.use_config step)

end Config

/-- A console shows no more than its limit allows, or exactly what it is reset to. -/
def IsBounded (console : Console) : Prop :=
  console.output.length ≤ console.config.outputLimit ∨ console.output = welcomeLines ∨ console.output = clearedLines

section Bounded

variable {console : Console}

theorem IsBounded.display (bounded : console.IsBounded) (lines : List Line) : (console.display lines).IsBounded := by
  cases lines with
  | nil => exact bounded
  | cons line lines =>
    left
    simp only [Console.display, List.length_drop]
    omega

theorem IsBounded.noted (bounded : console.IsBounded) (input : String) : (console.noted input).IsBounded :=
  bounded.display [console.echo input]

theorem IsBounded.enter (bounded : console.IsBounded) (isConnected : Bool) (input : String) :
    (console.enter isConnected input).2.IsBounded := by
  rcases leads : console.enter isConnected input with ⟨step, after⟩
  cases entered leads with
  | blank blank => exact bounded
  | clears own => exact .inr (.inr rfl)
  | answers own keeps => exact (bounded.noted input).display _
  | fails found own refused => exact (bounded.noted input).display _
  | asks found own isOpen ok => exact (bounded.noted input).display _

theorem IsBounded.use (bounded : console.IsBounded) (step : Use) : (console.use step).IsBounded := by
  cases step with
  | line s input outcome after =>
    have entered := bounded.enter s.isConnected input
    rcases console.use_line s input outcome after with done | ⟨answer, answered⟩
    · rwa [done]
    · rw [answered]
      exact entered.display _
  | record frame => exact bounded.display _
  | clear => exact .inr (.inr rfl)
  | previous => exact bounded
  | next => exact bounded

theorem IsBounded.run (bounded : console.IsBounded) (uses : List Use) : (console.run uses).IsBounded := by
  induction uses generalizing console with
  | nil => exact bounded
  | cons step uses ih => exact ih (bounded.use step)

end Bounded

/-- Whatever is done with a console, it shows more lines than its limit only while it shows nothing but what it was
    reset to. -/
theorem output_bounded_between_resets (config : Config.TerminalSection) (uses : List Use) :
    let output := ((new config).run uses).output
    output.length ≤ config.outputLimit ∨ output = welcomeLines ∨ output = clearedLines := by
  have bounded : (new config).IsBounded := .inr (.inl rfl)
  have kept := bounded.run uses
  rwa [IsBounded, run_config] at kept

/-- A limit that passes the check of the configuration may be too small for what a console is reset to. -/
theorem output_exceeds_limit : ¬ ∀ config : Config, config.validate = .ok config → ∀ uses : List Use,
    ((new config.terminal).run uses).output.length ≤ config.terminal.outputLimit := by
  intro within
  let config : Config := { terminal := { outputLimit := 1 } }
  have admitted : config.validate = .ok config := rfl
  have shown : ((new config.terminal).run []).output.length = 3 := rfl
  have limit := within config admitted []
  rw [shown] at limit
  exact absurd limit (by decide)

end Console

end TagConsole
