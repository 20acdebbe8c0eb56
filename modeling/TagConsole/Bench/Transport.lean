import TagConsole.Transport.Basic

/-!
A bench for one transport without a session. Whoever takes the receiver keeps it, also when the link is
released.
-/

namespace TagConsole

open Wire (Frame)

structure TransportBench where
  config : Config
  bus : Link.Bus
  transport : Transport
  taken : Option Nat := none

namespace TransportBench

inductive Step where
  | connect
  | send (frame : Frame)
  | take
  | receive (count : Nat)
  | isConnected
  | disconnect
  | happen (event : Link.Event)
  | bus

inductive Answer where
  | nothing
  | result (result : Except Transport.Error Unit)
  | flag (b : Bool)
  | frames (frames : List (Option Frame))
  | number (n : Option Nat)
  | bus (bus : Link.Bus)

def new (config : Config) (bus : Link.Bus) (kind : Transport.Kind) (target : Option String) :
    TransportBench :=
  { config := config, bus := bus, transport := { kind := kind, target := target } }

def effort (bench : TransportBench) : Nat :=
  3 * bench.bus.pendingReads + 4 * bench.transport.readers.length + 1

def settleWithin : Nat → TransportBench → TransportBench
  | 0, bench => bench
  | fuel + 1, bench =>
    match (List.range bench.transport.readers.length).findSome?
        (bench.transport.stepReader bench.bus ·) with
    | some (transport, bus) => settleWithin fuel { bench with transport, bus }
    | none => bench

def settle (bench : TransportBench) : TransportBench := settleWithin bench.effort bench

def receiveOne (bench : TransportBench) (reader : Nat) : Option Frame × TransportBench :=
  let bench := bench.settle
  match bench.transport.readers[reader]?.bind (·.receive) with
  | none => (none, bench)
  | some (chunk, rest) =>
    (some chunk,
      { bench with
        transport := { bench.transport with readers := bench.transport.readers.set reader rest } })

def receive (bench : TransportBench) : Nat → List (Option Frame) × TransportBench
  | 0 => ([], bench)
  | count + 1 =>
    let (chunk, bench) := match bench.taken with
      | none => (none, bench)
      | some reader => bench.receiveOne reader
    let (chunks, bench) := bench.receive count
    (chunk :: chunks, bench)

def act (bench : TransportBench) : Step → Answer × TransportBench
  | .connect =>
    let (result, transport, bus) := bench.transport.connect bench.config bench.bus
    (.result result, { bench with transport, bus })
  | .send frame =>
    let (result, bus) := bench.transport.send bench.bus frame
    (.result result, { bench with bus })
  | .take =>
    let (reader, transport) := bench.transport.takeReceiver
    (.flag reader.isSome, { bench with transport, taken := reader <|> bench.taken })
  | .receive count =>
    let (chunks, bench) := bench.receive count
    (.frames chunks, bench)
  | .isConnected => (.flag bench.transport.isConnected, bench)
  | .disconnect => (.result (.ok ()), { bench with transport := bench.transport.detach })
  | .happen event =>
    let answer := match event with
      | .add _ => .number (some bench.bus.devices.length)
      | .addGhost _ => .number none
      | _ => .nothing
    (answer, { bench with bus := bench.bus.apply event })
  | .bus => (.bus bench.bus, bench)

/-- Takes steps in order. After each of them the readers go on as far as they can. -/
def run (bench : TransportBench) : List Step → List Answer
  | [] => []
  | step :: steps =>
    let (answer, bench) := bench.act step
    answer :: bench.settle.run steps

end TransportBench

end TagConsole
