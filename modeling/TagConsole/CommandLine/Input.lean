import TagConsole.Text.Utf8

/-!
The lines of a stream of bytes. The last one need not be ended.
-/

namespace TagConsole.CommandLine

def cutLine : List UInt8 → List UInt8 × List UInt8
  | [] => ([], [])
  | byte :: rest =>
    if byte = 0x0A then ([byte], rest)
    else
      let (line, rest) := cutLine rest
      (byte :: line, rest)

def dropLineEnd (line : String) : String :=
  match line.toList.reverse with
  | '\n' :: '\r' :: cs | '\n' :: cs => String.ofList cs.reverse
  | _ => line

theorem cutLine_length_lt (byte : UInt8) (bytes : List UInt8) :
    (cutLine (byte :: bytes)).2.length < (byte :: bytes).length := by
  induction bytes generalizing byte with
  | nil => unfold cutLine; split <;> exact Nat.zero_lt_one
  | cons next rest ih =>
    unfold cutLine
    split
    · exact Nat.lt_succ_self _
    · exact Nat.lt_succ_of_lt (ih next)

def linesOf : List UInt8 → List (Option String)
  | [] => []
  | byte :: bytes =>
    (Text.ofUtf8? (cutLine (byte :: bytes)).1).map dropLineEnd :: linesOf (cutLine (byte :: bytes)).2
termination_by bytes => bytes.length
decreasing_by exact cutLine_length_lt byte bytes

end TagConsole.CommandLine
