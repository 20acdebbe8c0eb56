import TagConsole.Text.Quoted

/-!
The commands that a device understands, by name and by number.
-/

namespace TagConsole.Wire

inductive Opcode where
  | getVersion
  | setSlot
  | getSlot
  | scanTag
  | rawExchange
  | startEmulation
  | stopEmulation
  | setUid
  | setSak
  | setAtqa
  deriving DecidableEq, Repr, Inhabited

namespace Opcode

def all : List Opcode :=
  [getVersion, setSlot, getSlot, scanTag, rawExchange, startEmulation, stopEmulation, setUid, setSak,
   setAtqa]

def code : Opcode → UInt32
  | getVersion => 0x1000
  | setSlot => 0x1001
  | getSlot => 0x1002
  | scanTag => 0x2000
  | rawExchange => 0x2001
  | startEmulation => 0x3000
  | stopEmulation => 0x3001
  | setUid => 0x3002
  | setSak => 0x3003
  | setAtqa => 0x3004

def name : Opcode → String
  | getVersion => "GET_VERSION"
  | setSlot => "SET_SLOT"
  | getSlot => "GET_SLOT"
  | scanTag => "HF14A_SCAN"
  | rawExchange => "HF14A_RAW"
  | startEmulation => "EMULATOR_START"
  | stopEmulation => "EMULATOR_STOP"
  | setUid => "SET_UID"
  | setSak => "SET_SAK"
  | setAtqa => "SET_ATQA"

def ofCode? (code : UInt32) : Option Opcode := all.find? (·.code == code)

def text (opcode : Opcode) : String :=
  opcode.name ++ " (0x" ++ Text.upperHex 4 opcode.code.toNat ++ ")"

end Opcode

end TagConsole.Wire
