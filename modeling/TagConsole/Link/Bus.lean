import TagConsole.Link.Info
import TagConsole.Link.Settings
import TagConsole.Link.Simulated
import TagConsole.Uuid

/-!
The links that a host offers: what it lists, what can be opened, and a record of what was opened.
-/

namespace TagConsole.Link

open Wire (Frame)

/-- What can be made to fail on an opened link. The last is the start of its reader. -/
inductive Fault where
  | clone
  | setTimeout
  | clearBuffers
  | spawn
  deriving DecidableEq, Repr

def Fault.name : Fault → String
  | clone => "clone"
  | setTimeout => "set_timeout"
  | clearBuffers => "clear_buffers"
  | spawn => "spawn"

def Fault.error : Fault → Error
  | spawn => .io .other (spawn.name ++ " refused")
  | fault => .config (fault.name ++ " refused")

structure Device where
  info : Info
  link : Simulated
  faults : List Fault := []
  /-- A device that is not listed can still be opened by its path. -/
  isListed : Bool := true
  deriving Repr

def Device.ofInfo (info : Info) (responder : Responder) (faults : List Fault) : Device :=
  ⟨info, { name := info.path, responder := responder }, faults, true⟩

structure Bus where
  /-- Entries that are listed and that nothing stands behind. -/
  ghosts : List Info := []
  devices : List Device := []
  failsOpen : Bool := false
  listFailure : Option Error := none
  absent : String → Error := .notFound
  opened : List String := []
  settings : List Settings := []
  services : List Uuid := []

namespace Bus

def entries (bus : Bus) : List Info :=
  bus.ghosts ++ (bus.devices.filter (·.isListed)).map (·.info)

def list (bus : Bus) : Except Error (List Info) :=
  bus.listFailure.elim (.ok bus.entries) .error

def peers (bus : Bus) : Except Error (List Info) :=
  bus.list.map (·.filter (·.hardware = .bluetooth))

def openPath (bus : Bus) (path : String) (settings : Settings) : Except Error Nat × Bus :=
  if bus.failsOpen then (.error (.notFound path), bus)
  else match bus.devices.findIdx? (·.info.path = path) with
    | none => (.error (bus.absent path), bus)
    | some index =>
      (.ok index,
        { bus with opened := bus.opened ++ [path], settings := bus.settings ++ [settings] })

/-- Opens a radio channel. The service counts as requested even if the peer is gone. -/
def openChannel (bus : Bus) (path : String) (service : Uuid) (settings : Settings) :
    Except Error Nat × Bus :=
  { bus with services := bus.services ++ [service] }.openPath path settings

def pendingReads (bus : Bus) : Nat :=
  (bus.devices.flatMap fun device => device.link.queue.map (·.length + 1)).foldl (· + ·) 0

def updateLink (bus : Bus) (index : Nat) (change : Simulated → Simulated) : Bus :=
  { bus with
    devices := bus.devices.modify index fun device => { device with link := change device.link } }

def fault? (bus : Bus) (index : Nat) (fault : Fault) : Option Error :=
  (bus.devices[index]?.filter (fault ∈ ·.faults)).map fun _ => fault.error

def clear (bus : Bus) (index : Nat) : Except Error Unit × Bus :=
  match bus.fault? index .clearBuffers with
  | some e => (.error e, bus)
  | none => (.ok (), bus.updateLink index (·.clear))

def write (bus : Bus) (index : Nat) (frame : Frame) : Except Error Unit × Bus :=
  match bus.devices[index]? with
  | none => (.error .closed, bus)
  | some device =>
    let (result, link) := device.link.write frame
    (result.map fun _ => (), bus.updateLink index fun _ => link)

end Bus

inductive Event where
  | push (device : Nat) (frame : Frame)
  | close (device : Nat)
  | failWrites (device : Nat) (fails : Bool)
  | respond (device : Nat) (responder : Responder)
  | refuse (device : Nat) (faults : List Fault)
  | failOpen (fails : Bool)
  | failList (failure : Option Error)
  | add (device : Device)
  | addGhost (info : Info)

def Bus.apply (bus : Bus) : Event → Bus
  | .push device frame => bus.updateLink device (·.push frame)
  | .close device => bus.updateLink device fun link => { link with closed := true }
  | .failWrites device fails => bus.updateLink device fun link => { link with failsWrites := fails }
  | .respond device responder => bus.updateLink device fun link => { link with responder := responder }
  | .refuse device faults =>
    { bus with devices := bus.devices.modify device fun known => { known with faults := faults } }
  | .failOpen fails => { bus with failsOpen := fails }
  | .failList failure => { bus with listFailure := failure }
  | .add device => { bus with devices := bus.devices ++ [device] }
  | .addGhost info => { bus with ghosts := bus.ghosts ++ [info] }

end TagConsole.Link
