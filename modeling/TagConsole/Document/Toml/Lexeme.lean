import TagConsole.Document.Value

/-!
What stands between the values of a TOML document: gaps within a line, line ends and comments.
-/

namespace TagConsole.Document.Toml

abbrev Reader (α : Type) := List Char → Option (α × List Char)

def isGap (c : Char) : Bool := c = ' ' || c = '\t'

def isPlain (c : Char) : Bool := c = '\t' || (0x20 ≤ c.toNat && c.toNat ≠ 0x7F)

def skipGaps (cs : List Char) : List Char := cs.dropWhile isGap

/-- A line ends with a line feed, before which one carriage return may stand. -/
def skipNewline? : List Char → Option (List Char)
  | '\n' :: cs => some cs
  | '\r' :: '\n' :: cs => some cs
  | _ => none

def skipComment : List Char → List Char
  | '#' :: cs => cs.dropWhile isPlain
  | cs => cs

def endLine? (cs : List Char) : Option (List Char) :=
  match skipComment (skipGaps cs) with
  | [] => some []
  | rest => skipNewline? rest

def skipLines : List Char → List Char
  | [] => []
  | '\r' :: '\n' :: cs => skipLines cs
  | c :: cs => if isGap c || c = '\n' then skipLines cs else c :: cs

/-- Gaps, line ends and comments, as they may stand between the items of a list. -/
def skipLayout (inComment : Bool) : List Char → List Char
  | [] => []
  | '\r' :: '\n' :: cs => skipLayout false cs
  | c :: cs =>
    if c = '\n' then skipLayout false cs
    else if inComment then if isPlain c then skipLayout true cs else c :: cs
    else if isGap c then skipLayout false cs
    else if c = '#' then skipLayout true cs
    else c :: cs

end TagConsole.Document.Toml
