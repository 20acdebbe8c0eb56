import TagConsole.Text.Blank
import TagConsole.Text.Quoted.Table

/-!
Texts in double quotes, as an error message shows a value it could not use.
-/

namespace TagConsole.Text

def digitsIn (letters : List Char) (base : Nat) (n : Nat) : List Char :=
  (Nat.toDigits base n).map fun d =>
    if d.isDigit then d else letters.getD (d.toNat - 'a'.toNat) d

def lowerHexLetters : List Char := ['a', 'b', 'c', 'd', 'e', 'f']

def upperHexLetters : List Char := ['A', 'B', 'C', 'D', 'E', 'F']

def padZeros (width : Nat) (digits : List Char) : List Char :=
  List.replicate (width - digits.length) '0' ++ digits

def upperHex (width n : Nat) : String := String.ofList (padZeros width (digitsIn upperHexLetters 16 n))

def quotedChar (c : Char) : List Char :=
  if c = '\x00' then ['\\', '0']
  else if c = '\t' then ['\\', 't']
  else if c = '\r' then ['\\', 'r']
  else if c = '\n' then ['\\', 'n']
  else if c = '\\' then ['\\', '\\']
  else if c = '"' then ['\\', '"']
  else if inRanges glyphlessRanges c then
    ['\\', 'u', '\x7b'] ++ digitsIn lowerHexLetters 16 c.toNat ++ ['\x7d']
  else [c]

def quoted (s : String) : String := String.ofList ('"' :: s.toList.flatMap quotedChar ++ ['"'])

end TagConsole.Text
