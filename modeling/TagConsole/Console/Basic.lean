import TagConsole.Console.Failure
import TagConsole.Console.History
import TagConsole.Dialect.Catalog
import TagConsole.Dialect.Mapping

/-!
The console: one typed line in, lines of output out. A line that reaches the device is begun before its
request and finished after it.
-/

namespace TagConsole

namespace Console

inductive LineKind where
  | command
  | response
  | error
  | info
  | output
  deriving DecidableEq, Repr

def LineKind.name : LineKind → String
  | command => "command"
  | response => "response"
  | error => "error"
  | info => "info"
  | output => "output"

structure Line where
  kind : LineKind
  text : String
  deriving DecidableEq, Repr

def Line.blank : Line := ⟨.output, ""⟩

inductive Directive where
  | proceed
  | clear
  | quit
  deriving DecidableEq, Repr

def Directive.name : Directive → String
  | proceed => "Continue"
  | clear => "Clear"
  | quit => "Quit"

structure Execution where
  lines : List Line := []
  directive : Directive := .proceed
  deriving DecidableEq, Repr

end Console

structure Console where
  config : Config.TerminalSection
  history : Console.History
  output : List Console.Line
  deriving Repr

namespace Console

def welcomeLines : List Line :=
  [⟨.info, "Chameleon Ultra Terminal"⟩, ⟨.info, "Type 'help' for available commands"⟩, .blank]

def clearedLines : List Line := [⟨.info, "Terminal cleared"⟩, .blank]

def new (config : Config.TerminalSection) : Console :=
  ⟨config, .empty config.historySize, welcomeLines⟩

/-- Shows lines. Whenever one comes, the oldest beyond the limit go. -/
def display (console : Console) (lines : List Line) : Console :=
  match lines with
  | [] => console
  | _ :: _ =>
    let all := console.output ++ lines
    { console with output := all.drop (all.length - console.config.outputLimit) }

def clear (console : Console) : List Line × Console :=
  (clearedLines, { console with output := clearedLines })

def record (console : Console) (frame : Wire.Frame) : Line × Console :=
  let line : Line := ⟨.response, Wire.renderFrame frame⟩
  (line, console.display [line])

inductive Step where
  | done (execution : Execution)
  | request (command : Wire.Command) (lines : List Line)
  deriving Repr

def ownAnswer (line : String) : Option (List Line × Directive) :=
  match Text.lower line with
  | "help" => some (Dialect.helpLines.map (⟨.info, ·⟩), .proceed)
  | "clear" | "cls" => some (clearedLines, .clear)
  | "quit" | "exit" => some ([⟨.info, "Goodbye!"⟩], .quit)
  | other =>
    (Text.dropStart? "help " other).map fun topic => ([⟨.info, Dialect.describe (Text.trim topic)⟩], .proceed)

/-- The command that a line stands for, by the first check that fails otherwise. -/
def commandOf (isConnected : Bool) (line : String) :
    Except Failure (Dialect.Phrase × Wire.Command) := do
  let phrase ← (Dialect.Phrase.ofLine? line).elim (.error .badFormat) .ok
  if !Dialect.isKnown phrase.keyword then
    .error (.unknownCommand phrase.keyword (Dialect.suggest phrase.keyword))
  else if !isConnected then .error .notConnected
  else match phrase.command with
    | .ok command => .ok (phrase, command)
    | .error _ => .error (.unsupported phrase.text)

def failureLines (failure : Failure) : List Line :=
  ⟨.error, failure.message⟩ :: failure.hint.toList.map (⟨.info, ·⟩)

/-- Takes a line up to the request it may need. Blank lines do nothing. -/
def enter (console : Console) (isConnected : Bool) (input : String) : Step × Console :=
  let line := Text.trim input
  if line.isEmpty then (.done {}, console)
  else
    let echo : Line := ⟨.command, console.config.prompt ++ line⟩
    let console := { console.display [echo] with history := console.history.push line }
    match ownAnswer line with
    | some (_, .clear) =>
      let (lines, console) := console.clear
      (.done ⟨echo :: lines, .clear⟩, console)
    | some (lines, directive) => (.done ⟨echo :: lines, directive⟩, console.display lines)
    | none =>
      match commandOf isConnected line with
      | .error failure =>
        (.done ⟨echo :: failureLines failure, .proceed⟩, console.display (failureLines failure))
      | .ok (phrase, command) =>
        let executing : Line := ⟨.info, "Executing: " ++ phrase.text⟩
        (.request command [echo, executing], console.display [executing])

def answerLines : Except Device.Error Wire.Reply → List Line
  | .ok reply => [⟨.response, reply.render⟩]
  | .error e => failureLines (.ofDevice e)

def answer (console : Console) (lines : List Line) (result : Except Device.Error Wire.Reply) :
    Execution × Console :=
  (⟨lines ++ answerLines result, .proceed⟩, console.display (answerLines result))

end Console

end TagConsole
