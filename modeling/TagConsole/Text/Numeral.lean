/-!
Decimal numerals of bounded size, read from a whole text: ASCII digits with any number of leading
zeros, and no blank, separator or fraction.
-/

namespace TagConsole.Text

def valueOfDigits (cs : List Char) : Nat := cs.foldl (fun n c => 10 * n + (c.toNat - '0'.toNat)) 0

def readDigits? (cs : List Char) : Option Nat :=
  if cs ≠ [] ∧ cs.all Char.isDigit then some (valueOfDigits cs) else none

def readNat? (most : Nat) (s : String) : Option Nat :=
  (match s.toList with
    | '+' :: cs => readDigits? cs
    | cs => readDigits? cs).filter (· ≤ most)

def readSigned? (s : String) : Option Int :=
  match s.toList with
  | '+' :: cs => (readDigits? cs).map Int.ofNat
  | '-' :: cs => (readDigits? cs).map fun n => -(n : Int)
  | cs => (readDigits? cs).map Int.ofNat

def inInt64 (n : Int) : Bool := -0x8000000000000000 ≤ n && n ≤ 0x7FFFFFFFFFFFFFFF

def readInt64? (s : String) : Option Int :=
  (readSigned? s).filter inInt64

end TagConsole.Text
