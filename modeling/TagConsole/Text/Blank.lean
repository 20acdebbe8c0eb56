/-!
Blank characters, and the two things a command line does with them: trimming the ends of a text and
cutting it into words.
-/

namespace TagConsole.Text

def inRanges (table : List (Nat × Nat)) (c : Char) : Bool :=
  table.any fun range => range.1 ≤ c.toNat && c.toNat ≤ range.2

/-- The code points with the Unicode property `White_Space`. -/
def blankRanges : List (Nat × Nat) :=
  [(0x09, 0x0D), (0x20, 0x20), (0x85, 0x85), (0xA0, 0xA0), (0x1680, 0x1680), (0x2000, 0x200A),
   (0x2028, 0x2029), (0x202F, 0x202F), (0x205F, 0x205F), (0x3000, 0x3000)]

def isBlank (c : Char) : Bool := inRanges blankRanges c

def isControl (c : Char) : Bool := inRanges [(0x00, 0x1F), (0x7F, 0x9F)] c

def trimStartChars (cs : List Char) : List Char := cs.dropWhile isBlank

def trimEndChars (cs : List Char) : List Char := (cs.reverse.dropWhile isBlank).reverse

def trimChars (cs : List Char) : List Char := trimEndChars (trimStartChars cs)

def trim (s : String) : String := String.ofList (trimChars s.toList)

def wordsOf : List Char → List (List Char)
  | [] => []
  | c :: cs =>
    if isBlank c then wordsOf cs
    else match cs, wordsOf cs with
      | [], _ => [[c]]
      | d :: _, found =>
        if isBlank d then [c] :: found
        else match found with
          | [] => [[c]]
          | word :: others => (c :: word) :: others

def words (s : String) : List String := (wordsOf s.toList).map String.ofList

def unwords (ws : List String) : String := String.intercalate " " ws

def isPrefixOf (start text : String) : Bool := start.toList.isPrefixOf text.toList

def dropStart? (start text : String) : Option String :=
  if isPrefixOf start text then some (String.ofList (text.toList.drop start.toList.length)) else none

def occursInChars (part : List Char) : List Char → Bool
  | [] => part.isEmpty
  | c :: cs => part.isPrefixOf (c :: cs) || occursInChars part cs

def occursIn (part text : String) : Bool := occursInChars part.toList text.toList

end TagConsole.Text
