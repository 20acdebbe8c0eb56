import TagConsole.Hex
import TagConsole.Text.Utf8
import TagConsole.Wire.Command
import TagConsole.Wire.Status

/-!
Reply frames: one status byte and the payload. A status byte outside the registry is kept as it is.
-/

namespace TagConsole.Wire

structure Reply where
  status : UInt8
  payload : List UInt8
  deriving DecidableEq, Repr, Inhabited

/-- What a frame from the device looks like to the operator: its text if it can be shown as it is,
    its hexadecimal digits otherwise. -/
def renderFrame (frame : Frame) : String := (Text.printable? frame).getD (Hex.encode frame)

namespace Reply

def ofFrame? : Frame → Option Reply
  | [] => none
  | status :: payload => some ⟨status, payload⟩

def isOk (reply : Reply) : Bool := reply.status == Status.ok.byte

def label (reply : Reply) : String :=
  match Status.ofByte? reply.status with
  | some status => status.name
  | none => "0x" ++ Text.upperHex 2 reply.status.toNat

def render (reply : Reply) : String :=
  if reply.payload.isEmpty then reply.label else reply.label ++ ": " ++ renderFrame reply.payload

end Reply

end TagConsole.Wire
