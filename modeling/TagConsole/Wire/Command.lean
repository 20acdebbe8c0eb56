import TagConsole.Wire.Opcode
import TagConsole.Wire.Slot

/-!
Command frames: four bytes of opcode, most significant first, and the payload as it is.
-/

namespace TagConsole.Wire

abbrev Frame := List UInt8

def bigEndian (n : UInt32) : List UInt8 :=
  [(n >>> 24).toUInt8, (n >>> 16).toUInt8, (n >>> 8).toUInt8, n.toUInt8]

def encode (opcode : UInt32) (payload : List UInt8) : Frame := bigEndian opcode ++ payload

structure Command where
  opcode : Opcode
  payload : List UInt8
  deriving DecidableEq, Repr, Inhabited

namespace Command

def frame (command : Command) : Frame := encode command.opcode.code command.payload

def getVersion : Command := ⟨.getVersion, []⟩

def setSlot (slot : Slot) : Command := ⟨.setSlot, [slot.number]⟩

def getSlot : Command := ⟨.getSlot, []⟩

def scanTag : Command := ⟨.scanTag, []⟩

def rawExchange (bytes : List UInt8) : Command := ⟨.rawExchange, bytes⟩

def startEmulation : Command := ⟨.startEmulation, []⟩

def stopEmulation : Command := ⟨.stopEmulation, []⟩

def setUid (uid : List UInt8) : Command := ⟨.setUid, uid⟩

def setSak (sak : UInt8) : Command := ⟨.setSak, [sak]⟩

def setAtqa (first second : UInt8) : Command := ⟨.setAtqa, [first, second]⟩

end Command

end TagConsole.Wire
