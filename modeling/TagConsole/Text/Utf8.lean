import TagConsole.Text.Blank

/-!
Bytes read as UTF-8: strictly, or with a replacement character for what is malformed.
-/

namespace TagConsole.Text

def ofUtf8? (bytes : List UInt8) : Option String := String.fromUTF8? bytes.toByteArray

def toUtf8 (s : String) : List UInt8 := s.toUTF8.toList

def isContinuation (b : UInt8) : Bool := 0x80 ≤ b && b ≤ 0xBF

/-- The number of bytes of a character and the closed range of its second byte, by its first byte. -/
def leadByte? (b : UInt8) : Option (Nat × UInt8 × UInt8) :=
  if 0xC2 ≤ b && b ≤ 0xDF then some (2, 0x80, 0xBF)
  else if b == 0xE0 then some (3, 0xA0, 0xBF)
  else if b == 0xED then some (3, 0x80, 0x9F)
  else if 0xE1 ≤ b && b ≤ 0xEF then some (3, 0x80, 0xBF)
  else if b == 0xF0 then some (4, 0x90, 0xBF)
  else if 0xF1 ≤ b && b ≤ 0xF3 then some (4, 0x80, 0xBF)
  else if b == 0xF4 then some (4, 0x80, 0x8F)
  else none

def assemble (size : Nat) (lead : UInt8) (rest : List UInt8) : Char :=
  Char.ofNat (rest.foldl (fun n b => 64 * n + b.toNat % 64) (lead.toNat % Nat.pow 2 (7 - size)))

/-- The first character of a byte list and the number of further bytes it takes. What is malformed
    yields the replacement character for the longest start that some character has. -/
def nextLossy (lead : UInt8) (rest : List UInt8) : Char × Nat :=
  if lead < 0x80 then (Char.ofNat lead.toNat, 0)
  else match leadByte? lead, rest with
    | none, _ => ('\uFFFD', 0)
    | some _, [] => ('\uFFFD', 0)
    | some (size, low, high), second :: more =>
      if low ≤ second && second ≤ high then
        let tail := (more.take (size - 2)).takeWhile isContinuation
        if tail.length = size - 2 then (assemble size lead (second :: tail), size - 1)
        else ('\uFFFD', 1 + tail.length)
      else ('\uFFFD', 0)

def decodeLossy : List UInt8 → List Char
  | [] => []
  | lead :: rest =>
    (nextLossy lead rest).1 :: decodeLossy (rest.drop (nextLossy lead rest).2)
termination_by bytes => bytes.length
decreasing_by
  have := List.length_drop (i := (nextLossy lead rest).2) (l := rest)
  rw [List.length_cons]
  omega

def ofUtf8Lossy (bytes : List UInt8) : String := String.ofList (decodeLossy bytes)

def printable? (bytes : List UInt8) : Option String :=
  (ofUtf8? bytes).filter fun text => text.toList.all fun c => !isControl c || isBlank c

end TagConsole.Text
