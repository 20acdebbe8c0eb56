import TagConsole.Decimal.Shortest

/-!
Lengths of time, and the two ways in which messages show them.
-/

namespace TagConsole

structure Duration where
  nanos : Nat
  deriving DecidableEq, Repr, Inhabited

namespace Duration

def second : Nat := 1000000000

def millisecond : Nat := 1000000

def microsecond : Nat := 1000

def ofParts (secs nanos : Nat) : Duration := ⟨secs * second + nanos⟩

def ofMillis (ms : Nat) : Duration := ⟨ms * millisecond⟩

def secs (d : Duration) : Nat := d.nanos / second

def subsecNanos (d : Duration) : Nat := d.nanos % second

def millis (d : Duration) : Nat := d.nanos / millisecond

def amount (whole fraction places : Nat) : String :=
  let digits := Nat.toDigits 10 fraction
  let padded := List.replicate (places - digits.length) '0' ++ digits
  match (padded.reverse.dropWhile (· = '0')).reverse with
  | [] => toString whole
  | kept => toString whole ++ "." ++ String.ofList kept

/-- The length exactly, in the largest unit of which it holds at least one. -/
def text (d : Duration) : String :=
  if second ≤ d.nanos then amount (d.nanos / second) (d.nanos % second) 9 ++ "s"
  else if millisecond ≤ d.nanos then amount (d.nanos / millisecond) (d.nanos % millisecond) 6 ++ "ms"
  else if microsecond ≤ d.nanos then amount (d.nanos / microsecond) (d.nanos % microsecond) 3 ++ "µs"
  else amount d.nanos 0 0 ++ "ns"

def inSeconds (d : Duration) : Float :=
  (UInt64.ofNat d.secs).toFloat + (UInt64.ofNat d.subsecNanos).toFloat / 1000000000.0

def secondsText (d : Duration) : String := Decimal.ofFloat d.inSeconds

end Duration

end TagConsole
