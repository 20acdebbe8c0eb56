import TagConsole.Hex
import TagConsole.Text.Case

/-!
Universally unique identifiers and the four forms in which they are read.
-/

namespace TagConsole

structure Uuid where
  bytes : List UInt8
  length_bytes : bytes.length = 16
  deriving DecidableEq, Repr

namespace Uuid

def ofBytes? (bytes : List UInt8) : Option Uuid :=
  if h : bytes.length = 16 then some ⟨bytes, h⟩ else none

def groups : List Nat := [8, 4, 4, 4, 12]

def joinGroups : List Nat → List Char → Option (List Char)
  | [], cs => if cs.isEmpty then some [] else none
  | [size], cs => if cs.length = size then some cs else none
  | size :: sizes, cs =>
    match cs.drop size with
    | '-' :: rest => (joinGroups sizes rest).map (cs.take size ++ ·)
    | _ => none

def splitGroups : List Nat → List Char → List Char
  | [], cs => cs
  | [_], cs => cs
  | size :: sizes, cs => cs.take size ++ '-' :: splitGroups sizes (cs.drop size)

def ofDigits? (digits : List Char) : Option Uuid := (Hex.decodeChars digits).bind ofBytes?

def ofHyphenated? (cs : List Char) : Option Uuid := (joinGroups groups cs).bind ofDigits?

def resourceStart : String := "urn:uuid:"

def ofText? (text : String) : Option Uuid :=
  let cs := text.toList
  match cs.length with
  | 32 => ofDigits? cs
  | 36 => ofHyphenated? cs
  | 38 =>
    if cs.head? = some '\x7b' && cs.getLast? = some '\x7d' then ofHyphenated? cs.tail.dropLast else none
  | 45 =>
    if Text.sameAsciiFolded (String.ofList (cs.take 9)) resourceStart then ofHyphenated? (cs.drop 9)
    else none
  | _ => none

def text (uuid : Uuid) : String :=
  String.ofList (splitGroups groups (uuid.bytes.flatMap Hex.encodeByte))

end Uuid

end TagConsole
