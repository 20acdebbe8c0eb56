import TagConsole.Document.Toml.Lexeme
import TagConsole.Text.Numeral
import TagConsole.Hex

/-!
TOML numbers, dates and times. Of numbers that are not integers only their form is read, and that they
are not too large.
-/

namespace TagConsole.Document.Toml

/-- Digits, between any two of which one underscore may stand. -/
def takeDigits (isDigit : Char → Bool) : List Char → List Char × List Char
  | '_' :: c :: cs =>
    if isDigit c then
      let (digits, rest) := takeDigits isDigit cs
      (c :: digits, rest)
    else ([], '_' :: c :: cs)
  | c :: cs =>
    if isDigit c then
      let (digits, rest) := takeDigits isDigit cs
      (c :: digits, rest)
    else ([], c :: cs)
  | [] => ([], [])

def readDigits (isDigit : Char → Bool) : Reader (List Char)
  | c :: cs => if isDigit c then some (takeDigits isDigit (c :: cs)) else none
  | [] => none

def valueIn (base : Nat) (digits : List Char) : Nat :=
  digits.foldl (fun n c => base * n + (Hex.digitValue? c).getD 0) 0

def readSign : List Char → Bool × List Char
  | '-' :: cs => (true, cs)
  | '+' :: cs => (false, cs)
  | cs => (false, cs)

def readWhole : Reader (List Char)
  | '0' :: cs => some (['0'], cs)
  | cs => readDigits Char.isDigit cs

def readDecimal : Reader Int := fun cs => do
  let (negative, cs) := readSign cs
  let (digits, rest) ← readWhole cs
  let size : Int := valueIn 10 digits
  return (if negative then -size else size, rest)

def readRadix (base : Nat) (isDigit : Char → Bool) : Reader Int := fun cs => do
  let (digits, rest) ← readDigits isDigit cs
  return ((valueIn base digits : Int), rest)

/-- Only decimal integers can have a sign. -/
def readInteger : Reader Int := fun cs =>
  (match cs with
    | '0' :: 'x' :: cs => readRadix 16 (fun c => (Hex.digitValue? c).isSome) cs
    | '0' :: 'o' :: cs => readRadix 8 (fun c => '0' ≤ c && c ≤ '7') cs
    | '0' :: 'b' :: cs => readRadix 2 (fun c => c = '0' || c = '1') cs
    | cs => readDecimal cs).filter fun (n, _) => Text.inInt64 n

def exceedsFloat (digits : List Char) (scale : Int) : Bool :=
  let significant := digits.dropWhile (· = '0')
  let places : Int := significant.length + scale
  let limit := Nat.pow 2 1024 - Nat.pow 2 970
  if significant.isEmpty || places < 300 then false
  else if 320 < places then true
  else limit * Nat.pow 10 (-scale).toNat ≤ valueIn 10 significant * Nat.pow 10 scale.toNat

def readFraction : Reader (List Char)
  | '.' :: cs => readDigits Char.isDigit cs
  | _ => none

def readExponent : Reader Int
  | c :: cs =>
    if c = 'e' || c = 'E' then do
      let (negative, cs) := readSign cs
      let (digits, rest) ← readDigits Char.isDigit cs
      let size : Int := valueIn 10 digits
      return (if negative then -size else size, rest)
    else none
  | [] => none

def readReal : Reader Unit := fun cs => do
  let (negative, cs) := readSign cs
  let (whole, afterWhole) ← readWhole cs
  let fraction := readFraction afterWhole
  let (places, afterPlaces) := fraction.getD ([], afterWhole)
  let exponent := readExponent afterPlaces
  let (scale, rest) := exponent.getD (0, afterPlaces)
  if fraction.isNone && exponent.isNone then none
  else if !negative && exceedsFloat (whole ++ places) (scale - places.length) then none
  else some ((), rest)

def readSpecial : Reader Unit := fun cs =>
  match (readSign cs).2 with
  | 'i' :: 'n' :: 'f' :: rest => some ((), rest)
  | 'n' :: 'a' :: 'n' :: rest => some ((), rest)
  | _ => none

def readField (size low high : Nat) : Reader Nat := fun cs =>
  let digits := cs.take size
  let value := valueIn 10 digits
  if digits.length = size ∧ digits.all Char.isDigit ∧ low ≤ value ∧ value ≤ high then
    some (value, cs.drop size)
  else none

def skipChar? (c : Char) : List Char → Option (List Char)
  | d :: cs => if c = d then some cs else none
  | [] => none

def isLeapYear (year : Nat) : Bool := year % 4 = 0 && (year % 100 ≠ 0 || year % 400 = 0)

def daysIn (year month : Nat) : Nat :=
  if month = 2 then if isLeapYear year then 29 else 28
  else if month ∈ [4, 6, 9, 11] then 30 else 31

def readDay : Reader Unit := fun cs => do
  let (year, rest) ← readField 4 0 9999 cs
  let (month, rest) ← readField 2 1 12 (← skipChar? '-' rest)
  let (_, rest) ← readField 2 1 (daysIn year month) (← skipChar? '-' rest)
  return ((), rest)

def readTime : Reader Unit := fun cs => do
  let (_, rest) ← readField 2 0 23 cs
  let (_, rest) ← readField 2 0 59 (← skipChar? ':' rest)
  let (_, rest) ← readField 2 0 60 (← skipChar? ':' rest)
  match rest with
  | '.' :: c :: more => return ((), if c.isDigit then more.dropWhile Char.isDigit else rest)
  | _ => return ((), rest)

def readOffset : Reader Unit
  | c :: cs =>
    if c = 'Z' || c = 'z' then some ((), cs)
    else if c = '+' || c = '-' then do
      let (_, rest) ← readField 2 0 23 cs
      let (_, rest) ← readField 2 0 59 (← skipChar? ':' rest)
      return ((), rest)
    else none
  | [] => none

def readTimeOfDay : Reader Unit
  | c :: cs =>
    if c = 'T' || c = 't' || c = ' ' then do
      let (_, rest) ← readTime cs
      return (readOffset rest).getD ((), rest)
    else none
  | [] => none

def readDate : Reader Unit := fun cs =>
  match readDay cs with
  | some (_, rest) => some ((readTimeOfDay rest).getD ((), rest))
  | none => readTime cs

def readNumber : Reader Value := fun cs =>
  (readDate cs).map (fun (_, rest) => (.date, rest))
    <|> (readReal cs <|> readSpecial cs).map (fun (_, rest) => (.real, rest))
    <|> (readInteger cs).map (fun (n, rest) => (.integer n, rest))

end TagConsole.Document.Toml
