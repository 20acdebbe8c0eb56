import TagConsole.Link.Error
import TagConsole.Link.Info

/-!
Which of the listed links a connection is made to.
-/

namespace TagConsole.Transport

open Link (Info)

inductive Kind where
  | usb
  | radio
  deriving DecidableEq, Repr

namespace Kind

def name : Kind → String
  | usb => "usb"
  | radio => "radio"

def text : Kind → String
  | usb => "USB"
  | radio => "Bluetooth"

end Kind

inductive Error where
  | noUsbDevice
  | noRadioPeer
  | targetNotFound (target : String)
  | notConnected
  | link (cause : Link.Error)
  | worker (cause : String)
  deriving DecidableEq, Repr

def Error.message : Error → String
  | noUsbDevice => "No USB devices found"
  | noRadioPeer => "No suitable Chameleon device found"
  | targetNotFound target => "Device '" ++ target ++ "' not found"
  | notConnected => "Not connected"
  | link cause => cause.message
  | worker cause => "Link worker failed: " ++ cause

/-- A target that names no listed link is taken as a path; without a target it is the first adapter. -/
def selectAdapter (available : List Info) : Option String → Except Error Info
  | some target => .ok ((available.find? (·.isNamedBy target)).getD ⟨target, .other, none⟩)
  | none => (available.find? (·.hardware = .usb)).elim (.error .noUsbDevice) .ok

def isEligible (nameFilter : String) (peer : Info) : Bool :=
  peer.name.any fun name => Text.occursIn (Text.lower nameFilter) (Text.lower name)

/-- A target must name a peer; without a target it is the first eligible one. -/
def selectPeer (bonded : List Info) (nameFilter : String) : Option String → Except Error Info
  | some target => (bonded.find? (·.isNamedBy target)).elim (.error (.targetNotFound target)) .ok
  | none => (bonded.find? (isEligible nameFilter)).elim (.error .noRadioPeer) .ok

end TagConsole.Transport
