import TagConsole.CommandLine.Request
import TagConsole.Console.Session

/-!
What a line typed into the program comes to: an errand on the session, and the text that it prints.
-/

namespace TagConsole.CommandLine

open Session (Errand)

def linesText (lines : List String) : String := String.join (lines.map (· ++ "\n"))

def hardwareLabel : Link.Hardware → String
  | .usb => "Usb"
  | .bluetooth => "Bluetooth"
  | .other => "Other"

def listText (heading : String) (entries : List String) : String :=
  linesText (heading :: if entries.isEmpty then ["  (none)"] else entries.map ("  " ++ ·))

def linksText (bus : Link.Bus) : Except Link.Error String := do
  let adapters ← bus.list
  let peers ← bus.peers
  return listText "Serial adapters:"
      (adapters.map fun info => info.text ++ " [" ++ hardwareLabel info.hardware ++ "]")
    ++ listText "Bonded radio peers:" (peers.map (·.text))

def columnText (n : Nat) : String :=
  let digits := toString n
  String.ofList (List.replicate (4 - digits.length) ' ') ++ digits

def historyText (history : Console.History) : String :=
  linesText ((history.entries.zipIdx 1).map fun (entry, n) => columnText n ++ "  " ++ entry)

def statusText (s : Session) : String :=
  "State: " ++ s.status.text ++ " (link: " ++ (s.kind?.map (·.text)).getD "none" ++ ")"

def requestHelp : String :=
  "Application commands: :usb [PORT], :radio [NAME], :disconnect, :status, :ports, :history, :raw <hex>"

def clearScreen : String := "\x1b[2J\x1b[H"

def executionText (echoes : Bool) (execution : Console.Execution) : String :=
  (if execution.directive = .clear then clearScreen else "")
    ++ linesText ((execution.lines.filter fun line => echoes || line.kind ≠ .command).map (·.text))

/-- Connects and tells what came of it. A blank target leaves the choice to the transport. -/
def connectErrand (kind : Transport.Kind) (target : String) : Errand String :=
  let target := if (Text.trim target).isEmpty then none else some target
  .call (.connect kind target) fun outcome s =>
    match outcome with
    | .failed error => (Console.Failure.ofSession error).message ++ "\n"
    | .done | .reply _ => "Connected (" ++ s.status.text ++ ")\n"

def rawErrand (s : Session) (digits : String) : Errand String :=
  match Hex.decode digits with
  | some (byte :: bytes) =>
    ((Device.Operation.sendRaw (byte :: bytes)).errand s.config.device).map fun result =>
      match Console.replyOf result with
      | .ok reply => reply.render ++ "\n"
      | .error e => (Console.Failure.ofDevice e).message ++ "\n"
  | _ => .done "Usage: :raw <hex frame>\n"

def requestErrand (console : Console) (s : Session) : Request → Errand String
  | .connect kind target => connectErrand kind target
  | .disconnect => .call .disconnect fun _ _ => "Disconnected\n"
  | .status => .done (statusText s ++ "\n")
  | .links =>
    .done <| match linksText s.bus with
      | .ok text => text
      | .error e => e.message ++ "\n"
  | .history => .done (historyText console.history)
  | .raw digits => rawErrand s digits
  | .other => .done (requestHelp ++ "\n")

structure Turn where
  text : String
  console : Console
  proceeds : Bool := true
  deriving Repr

def executeErrand (echoes : Bool) (console : Console) (s : Session) (line : String) : Errand Turn :=
  (console.errand s line).map fun (execution, console) =>
    ⟨executionText echoes execution, console, execution.directive ≠ .quit⟩

def lineErrand (console : Console) (s : Session) (line : String) : Errand Turn :=
  match Request.ofLine? line with
  | some request => (requestErrand console s request).map fun text => ⟨text, console, true⟩
  | none => executeErrand false console s line

end TagConsole.CommandLine
