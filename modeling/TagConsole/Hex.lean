import TagConsole.Text.Quoted

/-!
Bytes written as two hexadecimal digits each, high digit first. Reading takes either case, writing
gives small letters.
-/

namespace TagConsole.Hex

def digitValue? (c : Char) : Option Nat :=
  if '0' ≤ c && c ≤ '9' then some (c.toNat - '0'.toNat)
  else if 'a' ≤ c && c ≤ 'f' then some (c.toNat - 'a'.toNat + 10)
  else if 'A' ≤ c && c ≤ 'F' then some (c.toNat - 'A'.toNat + 10)
  else none

def decodeChars : List Char → Option (List UInt8)
  | [] => some []
  | [_] => none
  | high :: low :: rest => do
    let h ← digitValue? high
    let l ← digitValue? low
    let bytes ← decodeChars rest
    return UInt8.ofNat (16 * h + l) :: bytes

def decode (s : String) : Option (List UInt8) := decodeChars s.toList

/-- The bytes spelled by arguments written one after the other. Spaces within an argument do not
    count; no argument at all spells nothing. -/
def decodeArgs (args : List String) : Option (List UInt8) :=
  if args.isEmpty then none
  else decodeChars ((args.flatMap String.toList).filter (· ≠ ' '))

def digitChar (n : Nat) : Char := if n < 10 then Char.ofNat (48 + n) else Char.ofNat (87 + n)

def encodeByte (b : UInt8) : List Char := [digitChar (b.toNat / 16), digitChar (b.toNat % 16)]

def encode (bytes : List UInt8) : String := String.ofList (bytes.flatMap encodeByte)

end TagConsole.Hex
