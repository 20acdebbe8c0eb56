import TagConsole.Text.Numeral

/-!
The emulation slots of a device.
-/

namespace TagConsole.Wire

def lastSlot : UInt8 := 7

structure Slot where
  number : UInt8
  number_le : number ≤ lastSlot
  deriving DecidableEq, Repr

namespace Slot

inductive Error where
  | outOfRange (n : Int)
  | notANumber (text : String)
  deriving DecidableEq, Repr

def Error.message : Error → String
  | outOfRange n => "slot " ++ toString n ++ " is out of range (0-7)"
  | notANumber text => "'" ++ text ++ "' is not a slot number"

def ofByte (b : UInt8) : Except Error Slot :=
  if h : b ≤ lastSlot then .ok ⟨b, h⟩ else .error (.outOfRange b.toNat)

def ofInt (n : Int) : Except Error Slot :=
  if 0 ≤ n ∧ n < 256 then (ofByte (UInt8.ofNat n.toNat)).mapError fun _ => .outOfRange n
  else .error (.outOfRange n)

def ofText (text : String) : Except Error Slot :=
  match Text.readInt64? text with
  | some n => ofInt n
  | none => .error (.notANumber text)

def text (slot : Slot) : String := toString slot.number.toNat

end Slot

end TagConsole.Wire
