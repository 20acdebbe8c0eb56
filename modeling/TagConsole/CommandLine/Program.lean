import TagConsole.CommandLine.Host
import TagConsole.CommandLine.Input
import TagConsole.CommandLine.Turn

/-!
The program: a console on a session, run line by line.
-/

namespace TagConsole

structure Program where
  session : Session
  console : Console
  shown : Nat := 0

namespace Program

open CommandLine (Turn)

def new (session : Session) : Program :=
  { session, console := .new session.config.terminal, shown := session.unsolicited.length }

def prompt (program : Program) : String := program.console.config.prompt

def lineErrand (program : Program) (line : String) : Session.Errand Turn :=
  CommandLine.lineErrand program.console program.session line

def commandErrand (program : Program) (command : String) : Session.Errand Turn :=
  CommandLine.executeErrand true program.console program.session command

def showUnsolicited (program : Program) : String × Program :=
  let fresh := program.session.unsolicited.drop program.shown
  fresh.foldl
    (fun (text, program) frame =>
      let (line, console) := program.console.record frame
      (text ++ "\n" ++ line.text ++ "\n" ++ program.prompt,
        { program with console := console, shown := program.shown + 1 }))
    ("", program)

def afterTurn (program : Program) (turn : Turn) : String × Program :=
  let program := { program with console := turn.console }
  if turn.proceeds then
    let (text, program) := program.showUnsolicited
    (turn.text ++ program.prompt ++ text, program)
  else (turn.text, program)

def enterLine (program : Program) (line : String) : Bool × String × Program :=
  let (turn, session) := program.session.complete (program.lineErrand line)
  (turn.proceeds, { program with session := session }.afterTurn turn)

def enterLines (program : Program) : List (Option String) → Nat × String × Program
  | [] => (0, "", program)
  | none :: _ => (1, "", program)
  | some line :: lines =>
    match program.enterLine line with
    | (false, text, program) => (0, text, program)
    | (true, text, program) =>
      let (code, more, program) := program.enterLines lines
      (code, text ++ more, program)

def runCommands (program : Program) : List String → String × Program
  | [] => ("", program)
  | command :: commands =>
    let (turn, session) := program.session.complete (program.commandErrand command)
    let program := { program with session := session, console := turn.console }
    if turn.proceeds then
      let (more, program) := program.runCommands commands
      (turn.text ++ more, program)
    else (turn.text, program)

def greeting (program : Program) : String :=
  CommandLine.linesText (program.console.output.map (·.text)) ++ program.prompt

end Program

namespace CommandLine

structure Run where
  exitCode : Nat
  output : String := ""
  bus : Link.Bus := {}

def startErrand (arguments : Arguments) : Session.Errand String :=
  match arguments.startLink with
  | some (kind, target) => connectErrand kind target
  | none => .done ""

def closeLink (s : Session) : Session := (s.perform .disconnect).2

/-- A whole run of the program with everything that is typed into it. -/
def run (host : Host) (arguments : List String) (input : List UInt8) : Run :=
  match Arguments.read arguments with
  | .error stop => ⟨stop.exitCode, stop.text, host.bus⟩
  | .ok arguments =>
    match host.config arguments with
    | .error _ => ⟨1, "", host.bus⟩
    | .ok config =>
      if arguments.listsLinks then
        match linksText host.bus with
        | .ok text => ⟨0, text, host.bus⟩
        | .error _ => ⟨1, "", host.bus⟩
      else
        let s : Session := { config := config, bus := host.bus }
        let (connected, s) := s.complete (startErrand arguments)
        let program := Program.new s
        if arguments.commands.isEmpty then
          let (code, text, last) := program.enterLines (linesOf input)
          ⟨code, connected ++ program.greeting ++ text, (closeLink last.session).bus⟩
        else
          let (text, last) := program.runCommands arguments.commands
          ⟨0, connected ++ text, (closeLink last.session).bus⟩

end CommandLine

end TagConsole
