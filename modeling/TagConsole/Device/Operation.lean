import TagConsole.Config.Schema
import TagConsole.Session.Status
import TagConsole.Wire.Reply

/-!
Typed operations on a device. Each is one request: a frame and how long its reply may take, and what
the reply means.
-/

namespace TagConsole.Device

open Wire (Command Frame Opcode Reply Slot)

inductive Error where
  | session (cause : Session.Error)
  | emptyReply
  | rejected (opcode : Opcode) (status : String)
  | invalidSlot (cause : Slot.Error)
  | invalidUid (text : String)
  | malformedReply (opcode : Opcode) (reason : String)
  deriving DecidableEq, Repr

namespace Error

def message : Error → String
  | session cause => cause.message
  | emptyReply => "Empty reply from device"
  | rejected opcode status => opcode.text ++ " failed with status " ++ status
  | invalidSlot cause => cause.message
  | invalidUid text => "Invalid UID hex: '" ++ text ++ "'"
  | malformedReply opcode reason => "Malformed reply to " ++ opcode.text ++ ": " ++ reason

def isTimeout : Error → Bool
  | session (.timeout _) => true
  | _ => false

end Error

inductive Operation where
  | getVersion
  | scanTags
  | setSlot (slot : Int)
  | getSlot
  | setUid (uid : String)
  | setSak (sak : UInt8)
  | setAtqa (first second : UInt8)
  | startEmulation
  | stopEmulation
  /-- Sends a frame as it is and leaves the status of the reply to the caller. -/
  | sendRaw (frame : Frame)
  | execute (command : Command) (timeout : Nat)
  deriving DecidableEq, Repr

inductive Result where
  | done
  | text (s : String)
  | tags (found : List String)
  | slot (slot : Slot)
  | reply (reply : Reply)
  deriving DecidableEq, Repr

structure Request where
  frame : Frame
  timeout : Nat
  deriving DecidableEq, Repr

namespace Operation

def readUid (text : String) : Except Error (List UInt8) :=
  match Hex.decode (Text.trim text) with
  | some (byte :: bytes) => .ok (byte :: bytes)
  | _ => .error (.invalidUid text)

/-- The request of an operation. An argument that does not fit is refused before anything is sent. -/
def request (deadlines : Config.DeviceSection) : Operation → Except Error Request
  | getVersion => .ok ⟨Command.getVersion.frame, deadlines.version⟩
  | scanTags => .ok ⟨Command.scanTag.frame, deadlines.scan⟩
  | setSlot number =>
    match Slot.ofInt number with
    | .ok slot => .ok ⟨(Command.setSlot slot).frame, deadlines.set⟩
    | .error e => .error (.invalidSlot e)
  | getSlot => .ok ⟨Command.getSlot.frame, deadlines.set⟩
  | setUid text =>
    match readUid text with
    | .ok uid => .ok ⟨(Command.setUid uid).frame, deadlines.set⟩
    | .error e => .error e
  | setSak sak => .ok ⟨(Command.setSak sak).frame, deadlines.set⟩
  | setAtqa first second => .ok ⟨(Command.setAtqa first second).frame, deadlines.set⟩
  | startEmulation => .ok ⟨Command.startEmulation.frame, deadlines.set⟩
  | stopEmulation => .ok ⟨Command.stopEmulation.frame, deadlines.set⟩
  | sendRaw frame => .ok ⟨frame, deadlines.raw⟩
  | execute command timeout => .ok ⟨command.frame, timeout⟩

def accept (opcode : Opcode) (reply : Reply) : Except Error (List UInt8) :=
  if reply.isOk then .ok reply.payload else .error (.rejected opcode reply.label)

def slotOf (payload : List UInt8) : Except Error Slot :=
  match payload with
  | [] => .error (.malformedReply .getSlot "empty payload")
  | byte :: _ => (Slot.ofByte byte).mapError fun e => .malformedReply .getSlot e.message

def tagsOf (payload : List UInt8) : List String :=
  if payload.isEmpty then [] else ["Card found: " ++ Hex.encode payload]

def interpret (operation : Operation) (frame : Frame) : Except Error Result := do
  let reply ← (Reply.ofFrame? frame).elim (.error .emptyReply) .ok
  match operation with
  | getVersion => return .text (Text.ofUtf8Lossy (← accept .getVersion reply))
  | scanTags => return .tags (tagsOf (← accept .scanTag reply))
  | getSlot => return .slot (← slotOf (← accept .getSlot reply))
  | setSlot _ => let _ ← accept .setSlot reply; return .done
  | setUid _ => let _ ← accept .setUid reply; return .done
  | setSak _ => let _ ← accept .setSak reply; return .done
  | setAtqa _ _ => let _ ← accept .setAtqa reply; return .done
  | startEmulation => let _ ← accept .startEmulation reply; return .done
  | stopEmulation => let _ ← accept .stopEmulation reply; return .done
  | sendRaw _ | execute _ _ => return .reply reply

end Operation

end TagConsole.Device
