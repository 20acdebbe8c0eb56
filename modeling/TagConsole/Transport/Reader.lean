import TagConsole.Link.Simulated

/-!
The reader of one link. It takes chunks off the link, each of bounded size, and puts them into a
channel of bounded length for one receiver.
-/

namespace TagConsole.Transport

open Link (Simulated)
open Wire (Frame)

structure Reader where
  device : Nat
  size : Nat
  capacity : Nat
  /-- Cleared when the link is released, or by the reader when the link has failed. -/
  isAlive : Bool := true
  isRunning : Bool := true
  /-- Inside a read, which goes on though the link be released meanwhile. -/
  isReading : Bool := false
  isHeard : Bool := true
  held : Option Frame := none
  channel : List Frame := []
  deriving DecidableEq, Repr

namespace Reader

def start (device readBuffer inboundCapacity : Nat) : Reader :=
  { device := device, size := max readBuffer 1, capacity := max inboundCapacity 1 }

def stop (reader : Reader) : Reader :=
  { reader with isRunning := false, isReading := false, held := none }

/-- One turn of the reader, or nothing while it has to wait. It looks whether the link was released
    before each read and when a read comes back with nothing. Empty chunks are dropped. -/
def step (reader : Reader) (link : Simulated) : Option (Reader × Simulated) :=
  if !reader.isRunning then none
  else match reader.held with
    | some chunk =>
      if !reader.isHeard then some (reader.stop, link)
      else if reader.channel.length < reader.capacity then
        some ({ reader with held := none, channel := reader.channel ++ [chunk] }, link)
      else none
    | none =>
      if !reader.isReading then
        some (if reader.isAlive then { reader with isReading := true } else reader.stop, link)
      else match link.read reader.size with
        | (.ok chunk, link) =>
          some ({ reader with isReading := false, held := if chunk.isEmpty then none else some chunk }, link)
        | (.error e, _) =>
          if !e.isIdle then some ({ reader.stop with isAlive := false }, link)
          else if reader.isAlive then none
          else some (reader.stop, link)

def release (reader : Reader) : Reader := { reader with isAlive := false }

def abandon (reader : Reader) : Reader := { reader with isHeard := false, channel := [] }

def isEnded (reader : Reader) : Bool := !reader.isRunning && reader.channel.isEmpty

def receive (reader : Reader) : Option (Frame × Reader) :=
  match reader.channel with
  | [] => none
  | chunk :: later => some (chunk, { reader with channel := later })

end Reader

end TagConsole.Transport
