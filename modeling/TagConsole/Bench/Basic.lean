import TagConsole.Console.Session

/-!
A bench: one session and one console over simulated links, with calls that run in the background under
names. A script is a list of steps, and each step yields a snapshot of what it changed.
-/

namespace TagConsole

open Wire (Frame)

namespace Bench

inductive Call where
  | send (frame : Frame)
  | request (frame : Frame) (timeout : Nat)
  | device (operation : Device.Operation)
  deriving Repr

inductive Step where
  | connect (kind : Transport.Kind) (target : Option String)
  | disconnect
  | call (call : Call)
  | start (name : String) (call : Call)
  | join (name : String)
  | cancel (name : String)
  | line (text : String)
  | previous
  | next
  | clear
  | record (frame : Frame)
  | output
  | history
  | happen (event : Link.Event)
  | withholdReceivers (on : Bool)
  | advance (ms : Nat)
  | bus

inductive Answer where
  | nothing
  | done
  | reply (frame : Frame)
  | result (result : Device.Result)
  | sessionError (error : Session.Error)
  | deviceError (error : Device.Error)
  | noSuchCall
  | execution (execution : Console.Execution)
  | entry (text : Option String)
  | line (line : Console.Line)
  | lines (lines : List Console.Line)
  | texts (texts : List String)
  | number (n : Option Nat)
  | bus (bus : Link.Bus)

def Answer.ofOutcome : Session.Outcome → Answer
  | .done => .done
  | .reply frame => .reply frame
  | .failed e => .sessionError e

def Call.conclude : Call → Session.Outcome → Answer
  | device operation, outcome =>
    match operation.conclude outcome with
    | .ok result => .result result
    | .error e => .deviceError e
  | _, outcome => .ofOutcome outcome

def Call.operation (deadlines : Config.DeviceSection) : Call → Except Answer Session.Operation
  | send frame => .ok (.send frame)
  | request frame timeout => .ok (.request frame timeout)
  | device operation =>
    match operation.request deadlines with
    | .ok ⟨frame, timeout⟩ => .ok (.request frame timeout)
    | .error e => .error (.deviceError e)

inductive Background where
  | running (id : Nat) (call : Call)
  | answered (answer : Answer)

structure Snapshot where
  answer : Answer
  status : Session.Status
  isConnected : Bool
  kind : Option Transport.Kind
  waiting : Nat
  statusChanged : Bool
  elapsed : Nat
  inbound : List Frame
  unsolicited : List Frame
  written : List (Nat × List Frame)
  opened : List String
  finished : List (String × Answer)

end Bench

structure Bench where
  session : Session
  console : Console
  background : List (String × Bench.Background) := []

namespace Bench

def new (config : Config) (bus : Link.Bus) : Bench :=
  ⟨{ config := config, bus := bus }, .new config.terminal, []⟩

def perform (bench : Bench) (operation : Session.Operation) (conclude : Session.Outcome → Answer) :
    Answer × Bench :=
  let (outcome, session) := bench.session.perform operation
  (conclude outcome, { bench with session })

def lookup (bench : Bench) (name : String) : Option Background := bench.background.lookup name

def forget (bench : Bench) (name : String) : Bench :=
  { bench with background := bench.background.filter (·.1 ≠ name) }

def Background.answer? (session : Session) : Background → Option Answer
  | running id call => (session.outcome? id).map call.conclude
  | answered answer => some answer

def Background.drop (session : Session) : Background → Session
  | running id _ => session.dropCall id
  | answered _ => session

def act (bench : Bench) : Step → Answer × Bench
  | .connect kind target => bench.perform (.connect kind target) .ofOutcome
  | .disconnect => bench.perform .disconnect .ofOutcome
  | .call call =>
    match call.operation bench.session.config.device with
    | .ok operation => bench.perform operation call.conclude
    | .error answer => (answer, bench)
  | .start name call =>
    match call.operation bench.session.config.device with
    | .ok operation =>
      let (id, session) := bench.session.start operation
      (.nothing,
        { bench with session, background := bench.background ++ [(name, .running id call)] })
    | .error answer =>
      (.nothing, { bench with background := bench.background ++ [(name, .answered answer)] })
  | .join name =>
    match bench.lookup name with
    | some (.running id call) =>
      let session := bench.session.await id
      let answer := ((session.outcome? id).map call.conclude).getD .nothing
      (answer, { bench with session := session.dropCall id }.forget name)
    | some (.answered answer) => (answer, bench.forget name)
    | none => (.noSuchCall, bench)
  | .cancel name =>
    match bench.lookup name with
    | some (.running id _) =>
      (.done, { bench with session := ((bench.session.cancel id).getD bench.session).settle }.forget name)
    | some (.answered _) => (.done, bench.forget name)
    | none => (.noSuchCall, bench)
  | .line text =>
    let (execution, console, session) := bench.console.execute bench.session text
    (.execution execution, { bench with console, session })
  | .previous =>
    let (entry, history) := bench.console.history.previous
    (.entry entry, { bench with console := { bench.console with history } })
  | .next =>
    let (entry, history) := bench.console.history.next
    (.entry entry, { bench with console := { bench.console with history } })
  | .clear =>
    let (lines, console) := bench.console.clear
    (.lines lines, { bench with console })
  | .record frame =>
    let (line, console) := bench.console.record frame
    (.line line, { bench with console })
  | .output => (.lines bench.console.output, bench)
  | .history => (.texts bench.console.history.entries, bench)
  | .happen event =>
    let answer := match event with
      | .add _ => .number (some bench.session.bus.devices.length)
      | .addGhost _ => .number none
      | _ => .nothing
    (answer, { bench with session := bench.session.happen event })
  | .withholdReceivers on =>
    (.nothing, { bench with session := bench.session.withhold on })
  | .advance ms => (.nothing, { bench with session := bench.session.elapse ms })
  | .bus => (.bus bench.session.bus, bench)

def writtenSince (before after : Link.Bus) : List (Nat × List Frame) :=
  (after.devices.zipIdx.map fun (device, i) =>
    (i, device.link.written.drop ((before.devices[i]?.map (·.link.written.length)).getD 0))).filter
      (·.2 ≠ [])

def collect (bench : Bench) : List (String × Answer) × Bench :=
  let ended := bench.background.filterMap fun (name, background) =>
    (background.answer? bench.session).map (name, ·)
  let isOver (background : Background) : Bool := (background.answer? bench.session).isSome
  (ended,
    { bench with
      session := (bench.background.filter (isOver ·.2)).foldl (fun s entry => entry.2.drop s)
        bench.session
      background := bench.background.filter (!isOver ·.2) })

def step (bench : Bench) (step : Step) : Snapshot × Bench :=
  let before := bench.session
  let (answer, bench) := bench.act step
  let (finished, bench) := bench.collect
  let s := bench.session
  ({ answer, finished,
     status := s.status, isConnected := s.isConnected, kind := s.kind?, waiting := s.waiters.length,
     statusChanged := s.published.length ≠ before.published.length,
     elapsed := s.clock - before.clock,
     inbound := s.inbound.drop before.inbound.length,
     unsolicited := s.unsolicited.drop before.unsolicited.length,
     written := writtenSince before.bus s.bus,
     opened := s.bus.opened.drop before.bus.opened.length }, bench)

def run (bench : Bench) : List Step → List Snapshot
  | [] => []
  | first :: later =>
    let (snapshot, bench) := bench.step first
    snapshot :: bench.run later

end Bench

end TagConsole
