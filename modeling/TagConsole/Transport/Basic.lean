import TagConsole.Config.Schema
import TagConsole.Link.Bus
import TagConsole.Transport.Reader
import TagConsole.Transport.Selection

/-!
A transport: one way to the device, which can be opened, written to and released any number of times.
Each time it is opened it gets a reader of its own.
-/

namespace TagConsole

open Wire (Frame)

structure Transport where
  kind : Transport.Kind
  target : Option String
  writer : Option Nat := none
  /-- The readers of all links that were opened, the latest last. -/
  readers : List Transport.Reader := []
  /-- Whether the receiver of the latest reader has not been taken yet. -/
  hasReceiver : Bool := false
  deriving Repr

namespace Transport

open Link (Bus)

def updateLast (change : Reader → Reader) (transport : Transport) : Transport :=
  { transport with
    readers := transport.readers.modify (transport.readers.length - 1) change }

def isConnected (transport : Transport) : Bool :=
  transport.readers.getLast?.any (·.isAlive) && transport.writer.isSome

def detach (transport : Transport) : Transport :=
  let released := transport.updateLast (·.release)
  let silent := if transport.hasReceiver then released.updateLast (·.abandon) else released
  { silent with writer := none, hasReceiver := false }

/-- Selects and opens a link. An adapter is cleared of what it received before. -/
def openLink (transport : Transport) (config : Config) (bus : Bus) : Except Error Nat × Bus :=
  match transport.kind with
  | .usb =>
    match bus.list.mapError Error.link >>= (selectAdapter · transport.target) with
    | .error e => (.error e, bus)
    | .ok info =>
      match bus.openPath info.path config.link.settings with
      | (.error e, bus) => (.error (.link e), bus)
      | (.ok device, bus) =>
        let (result, bus) := bus.clear device
        ((result.mapError Error.link).map fun _ => device, bus)
  | .radio =>
    match bus.peers.mapError Error.link >>= (selectPeer · config.radio.nameFilter transport.target) with
    | .error e => (.error e, bus)
    | .ok peer =>
      let (result, bus) := bus.openChannel peer.path config.radio.serviceUuid config.link.settings
      (result.mapError Error.link, bus)

/-- Takes a freshly opened link in use. If that fails the transport is left without a link. -/
def attach (transport : Transport) (config : Config) (bus : Bus) (device : Nat) :
    Except Error Unit × Transport × Bus :=
  let transport := transport.detach
  match bus.fault? device .clone <|> bus.fault? device .setTimeout with
  | some e => (.error (.link e), transport, bus)
  | none =>
    let bus := bus.updateLink device fun link => { link with readTimeout := .ofMillis config.link.readTimeout }
    match bus.fault? device .spawn with
    | some e => (.error (.link e), transport, bus)
    | none =>
      let reader := Reader.start device config.link.readBuffer config.link.inboundCapacity
      (.ok (),
        { transport with
          writer := some device, readers := transport.readers ++ [reader], hasReceiver := true }, bus)

/-- Opens the link. A transport that is connected is left as it is. -/
def connect (transport : Transport) (config : Config) (bus : Bus) :
    Except Error Unit × Transport × Bus :=
  if transport.isConnected then (.ok (), transport, bus)
  else match transport.openLink config bus with
    | (.error e, bus) => (.error e, transport, bus)
    | (.ok device, bus) => transport.attach config bus device

def takeReceiver (transport : Transport) : Option Nat × Transport :=
  if transport.hasReceiver then
    (some (transport.readers.length - 1), { transport with hasReceiver := false })
  else (none, transport)

def write (transport : Transport) (bus : Bus) (frame : Frame) : Except Error Unit × Bus :=
  match transport.writer with
  | none => (.error .notConnected, bus)
  | some device =>
    let (result, bus) := bus.write device frame
    (result.mapError Error.link, bus)

def send (transport : Transport) (bus : Bus) (frame : Frame) : Except Error Unit × Bus :=
  if transport.isConnected then transport.write bus frame else (.error .notConnected, bus)

def stepReader (transport : Transport) (bus : Bus) (index : Nat) : Option (Transport × Bus) := do
  let reader ← transport.readers[index]?
  let device ← bus.devices[reader.device]?
  let (reader', link) ← reader.step device.link
  return ({ transport with readers := transport.readers.set index reader' },
    bus.updateLink reader.device fun _ => link)

end Transport

end TagConsole
