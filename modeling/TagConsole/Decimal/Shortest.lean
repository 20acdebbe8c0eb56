/-!
The shortest decimal that reads back as a given floating-point number, written with all its places.
-/

namespace TagConsole.Decimal

structure Scaled where
  digits : Nat
  scale : Int
  deriving DecidableEq, Repr

/-- The reals that round to one floating-point number: the number is `value * unit`, its interval goes
    from `low * unit` to `high * unit`, and the ends belong to it if `closed`. -/
structure Interval where
  low : Nat
  value : Nat
  high : Nat
  closed : Bool

def hiddenBit : Nat := Nat.pow 2 52

/-- The interval of a double that is neither negative nor infinite, and the exponent of its unit as a
    power of two. -/
def Interval.ofBits (bits : Nat) : Interval × Int :=
  let fraction : Nat := bits % hiddenBit
  let biased : Nat := bits / hiddenBit % 2048
  let mantissa : Nat := if biased = 0 then fraction else hiddenBit + fraction
  let below : Nat := if fraction = 0 && biased > 1 then 1 else 2
  (⟨4 * mantissa - below, 4 * mantissa, 4 * mantissa + 2, mantissa % 2 == 0⟩,
    (if biased = 0 then 1 else (biased : Int)) - 1077)

def Interval.holds (i : Interval) (num den : Nat) (k : Nat) (scale : Int) : Bool :=
  let point := k * Nat.pow 10 scale.toNat * den
  let unit := Nat.pow 10 (-scale).toNat * num
  if i.closed then i.low * unit ≤ point && point ≤ i.high * unit
  else i.low * unit < point && point < i.high * unit

/-- The grid point next to `value * num / den` that lies in the interval; of two the nearer, and of two
    equally near the upper. -/
def Interval.gridPoint? (i : Interval) (num den : Nat) (scale : Int) : Option Nat :=
  let exact := i.value * num * Nat.pow 10 (-scale).toNat
  let grid := den * Nat.pow 10 scale.toNat
  let below := exact / grid
  let nearer := if 2 * (exact % grid) < grid then below else below + 1
  let farther := if nearer = below then below + 1 else below
  if i.holds num den nearer scale then some nearer
  else if i.holds num den farther scale then some farther
  else none

def leadingExponent (num den : Nat) : Int :=
  if den ≤ num then ((Nat.toDigits 10 (num / den)).length : Int) - 1
  else -((Nat.toDigits 10 ((den - 1) / num)).length : Int)

def Scaled.normal (d : Scaled) : Scaled :=
  if d.digits % 10 = 0 then ⟨d.digits / 10, d.scale + 1⟩ else d

def shortest (bits : Nat) : Scaled :=
  let (interval, exponent) := Interval.ofBits bits
  let num := Nat.pow 2 exponent.toNat
  let den := Nat.pow 2 (-exponent).toNat
  let lead := leadingExponent (interval.value * num) den
  let scales := (List.range 17).map fun (n : Nat) => lead - n
  match scales.findSome? fun scale => (interval.gridPoint? num den scale).map (Scaled.mk · scale) with
  | some decimal => decimal.normal
  | none => ⟨0, 0⟩

def Scaled.positional (d : Scaled) : String :=
  if 0 ≤ d.scale then toString (d.digits * Nat.pow 10 d.scale.toNat)
  else
    let places := (-d.scale).toNat
    let fraction := Nat.toDigits 10 (d.digits % Nat.pow 10 places)
    toString (d.digits / Nat.pow 10 places) ++ "."
      ++ String.ofList (List.replicate (places - fraction.length) '0' ++ fraction)

def ofFloat (x : Float) : String :=
  if x == 0 then "0" else (shortest x.toBits.toNat).positional

end TagConsole.Decimal
