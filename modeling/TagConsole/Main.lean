import TagConsole.CommandLine.Program

/-!
The command line: the program on the files, the environment and the devices of the host. A device file is
used with the line settings that it has; its reads must end when nothing arrives for a while.
-/

namespace TagConsole.CommandLine

/-- A device file that is open. The device at the same position of the bus stands for it. -/
structure DeviceFile where
  input : IO.FS.Handle
  output : IO.FS.Handle
  sent : Nat := 0

abbrev DeviceFiles := IO.Ref (List DeviceFile)

def variableNames : List String :=
  [Config.pathVariable, "XDG_CONFIG_HOME", "HOME"] ++ Config.Override.all.map (·.variableName)

def readAccountHome : IO (Option String) := do
  try
    let user := (← IO.FS.lines "/proc/self/status").findSome? fun line =>
      match line.splitOn "\t" with
      | "Uid:" :: user :: _ => some user
      | _ => none
    return (← IO.FS.lines "/etc/passwd").findSome? fun line =>
      match line.splitOn ":" with
      | [_, _, number, _, _, home, _] => if user = some number then some home else none
      | _ => none
  catch _ => return none

def readEnvironment : IO Environment := do
  let entries ← variableNames.filterMapM fun name => do
    return (← IO.getEnv name).map fun value => (name, Text.toUtf8 value)
  return { entries := entries, accountHome := ← readAccountHome }

def placeOf (path : String) : IO (List String) :=
  return (Files.Path.ofText (← IO.FS.realPath path).toString).steps

def addNode (files : Files) (path : String) : IO Files := do
  try
    return files.putFile (← placeOf path) (← IO.FS.readBinFile path).toList
  catch
    | .inappropriateType .. => return files.putFolder (← placeOf path)
    | _ => return files

def readFiles (env : Environment) (arguments : Arguments) : IO Files := do
  let current ← placeOf "."
  let start : Files := { ({} : Files).putFolder current with current := current }
  (arguments.config.toList ++ Config.candidates env).foldlM addNode start

def refusalOf : IO.Error → Link.Error
  | .noFileOrDirectory .. => .serial Files.Failure.notFound.reason
  | .inappropriateType .. => .serial Files.Failure.isFolder.reason
  | e => .serial e.toString

def findDevice (devices : DeviceFiles) (bus : Link.Bus) (path : String) : IO Link.Bus := do
  if bus.devices.any (·.info.path = path) then return bus
  try
    let place ← IO.FS.realPath path
    match (← place.metadata).type with
    | .dir => return { bus with absent := fun _ => .serial Files.Failure.isFolder.reason }
    | .other =>
      let input ← IO.FS.Handle.mk place .read
      let output ← IO.FS.Handle.mk place .write
      devices.modify (· ++ [{ input := input, output := output }])
      return bus.apply (.add { info := ⟨path, .other, none⟩, link := { name := path }, isListed := false })
    | _ => return { bus with absent := fun _ => .serial "Not a typewriter" }
  catch e => return { bus with absent := fun _ => refusalOf e }

def exchange (devices : DeviceFiles) (s : Session) : IO Session := do
  let mut s := s
  let mut files := []
  for (file, index) in (← devices.get).zipIdx do
    let written := (s.bus.devices[index]?.map (·.link.written)).getD []
    try
      for frame in written.drop file.sent do
        file.output.write frame.toByteArray
      file.output.flush
      let arrived ← file.input.read 4096
      if !arrived.isEmpty then s := s.happen (.push index arrived.toList)
    catch _ => s := s.happen (.close index)
    files := files ++ [{ file with sent := written.length }]
  devices.set files
  return s

partial def awaitCall (devices : DeviceFiles) (id since : Nat) (s : Session) : IO Session := do
  let s ← exchange devices s
  if (s.outcome? id).isSome then return s
  IO.sleep 1
  let now ← IO.monoMsNow
  awaitCall devices id now (s.elapse (now - since))

def completeOn {α : Type} (devices : DeviceFiles) (s : Session) : Session.Errand α → IO (α × Session)
  | .done result => return (result, s)
  | .call operation conclude => do
    let bus ← match operation with
      | .connect .usb (some path) => findDevice devices s.bus path
      | _ => pure s.bus
    let (id, s) := { s with bus := bus }.start operation
    let s ← awaitCall devices id (← IO.monoMsNow) s
    let ended := s.dropCall id
    return (conclude ((s.outcome? id).getD .done) ended, ended)

def printNow (text : String) : IO Unit := do
  IO.print text
  (← IO.getStdout).flush

partial def enterInput (devices : DeviceFiles) (program : Program) : IO Program := do
  let line ← (← IO.getStdin).getLine
  if line.isEmpty then return program
  let (turn, session) ← completeOn devices program.session (program.lineErrand (dropLineEnd line))
  let (text, program) := { program with session := session }.afterTurn turn
  printNow text
  if turn.proceeds then enterInput devices program else return program

def enterCommands (devices : DeviceFiles) (program : Program) : List String → IO Program
  | [] => return program
  | command :: commands => do
    let (turn, session) ← completeOn devices program.session (program.commandErrand command)
    printNow turn.text
    let program := { program with session := session, console := turn.console }
    if turn.proceeds then enterCommands devices program commands else return program

def runOn (arguments : Arguments) : IO UInt32 := do
  let env ← readEnvironment
  let host : Host := { files := ← readFiles env arguments, environment := env }
  match host.config arguments with
  | .error e =>
    IO.eprintln e.message
    return 1
  | .ok config =>
    if arguments.listsLinks then
      match linksText host.bus with
      | .ok text =>
        printNow text
        return 0
      | .error e =>
        IO.eprintln e.message
        return 1
    else
      let devices ← IO.mkRef []
      let (connected, s) ← completeOn devices { config := config, bus := host.bus } (startErrand arguments)
      printNow connected
      let program := Program.new s
      if arguments.commands.isEmpty then
        printNow program.greeting
        let _ ← enterInput devices program
      else
        let _ ← enterCommands devices program arguments.commands
      return 0

end TagConsole.CommandLine

open TagConsole.CommandLine in
def main (args : List String) : IO UInt32 := do
  match Arguments.read args with
  | .error stop =>
    printNow stop.text
    return UInt32.ofNat stop.exitCode
  | .ok arguments => runOn arguments
