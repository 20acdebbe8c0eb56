import TagConsole.Document.Toml.Lexeme
import TagConsole.Hex
import TagConsole.Text.Quoted

/-!
TOML strings. There are four spellings: with escapes or literal, and each of these on one line or on
several. The writer picks the plainest spelling that can hold a text; the reader takes all four.
-/

namespace TagConsole.Document.Toml

def readCodePoint (size : Nat) : Reader Char := fun cs => do
  let digits ← (cs.take size).mapM Hex.digitValue?
  let code := digits.foldl (16 * · + ·) 0
  if digits.length = size ∧ code.isValidChar then some (Char.ofNat code, cs.drop size) else none

def readEscape : Reader Char
  | 'b' :: cs => some ('\x08', cs)
  | 't' :: cs => some ('\t', cs)
  | 'n' :: cs => some ('\n', cs)
  | 'f' :: cs => some ('\x0c', cs)
  | 'r' :: cs => some ('\r', cs)
  | '"' :: cs => some ('"', cs)
  | '\\' :: cs => some ('\\', cs)
  | 'u' :: cs => readCodePoint 4 cs
  | 'U' :: cs => readCodePoint 8 cs
  | _ => none

def readPlain : Reader Char
  | c :: cs => if isPlain c then some (c, cs) else none
  | [] => none

def readEscaped : Reader Char
  | '\\' :: cs => readEscape cs
  | cs => readPlain cs

def readUntil (quote : Char) (readOne : Reader Char) : Nat → Reader (List Char)
  | 0, _ => none
  | fuel + 1, cs =>
    if cs.head? = some quote then some ([], cs.tail)
    else do
      let (c, rest) ← readOne cs
      let (text, rest) ← readUntil quote readOne fuel rest
      return (c :: text, rest)

/-- Three quotes close a text of several lines, and up to two more in front of them belong to it. -/
def closing? (quote : Char) (cs : List Char) : Option (List Char × List Char) :=
  let run := (cs.takeWhile (· = quote)).length
  if run < 3 then none else some (List.replicate (min run 5 - 3) quote, cs.drop (min run 5))

def readOrNewline (readOne : Reader (List Char)) : Reader (List Char) := fun cs =>
  match skipNewline? cs with
  | some rest => some (['\n'], rest)
  | none => readOne cs

/-- One part of a text of several lines with escapes. A backslash at the end of a line takes all blanks
    and line ends behind it away. -/
def readEscapedPart : Reader (List Char) := readOrNewline fun
  | '\\' :: cs =>
    match skipNewline? (skipGaps cs) with
    | some rest => some ([], skipLines rest)
    | none => (readEscape cs).map fun (c, rest) => ([c], rest)
  | cs => (readPlain cs).map fun (c, rest) => ([c], rest)

def readPlainPart : Reader (List Char) :=
  readOrNewline fun cs => (readPlain cs).map fun (c, rest) => ([c], rest)

def readParts (quote : Char) (readPart : Reader (List Char)) : Nat → Reader (List Char)
  | 0, _ => none
  | fuel + 1, cs =>
    match closing? quote cs with
    | some found => some found
    | none => do
      let (part, rest) ← readPart cs
      let (text, rest) ← readParts quote readPart fuel rest
      return (part ++ text, rest)

/-- A text of several lines, behind its opening quotes. A line end right behind them does not count. -/
def readLong (quote : Char) (readPart : Reader (List Char)) : Reader (List Char) := fun cs =>
  readParts quote readPart (cs.length + 1) ((skipNewline? cs).getD cs)

def readShort : Reader (List Char)
  | '"' :: cs => readUntil '"' readEscaped (cs.length + 1) cs
  | '\'' :: cs => readUntil '\'' readPlain (cs.length + 1) cs
  | _ => none

def readString : Reader String := fun cs =>
  (match cs with
    | '"' :: '"' :: '"' :: rest => readLong '"' readEscapedPart rest
    | '\'' :: '\'' :: '\'' :: rest => readLong '\'' readPlainPart rest
    | _ => readShort cs).map fun (text, rest) => (String.ofList text, rest)

inductive Spelling where
  | escaped
  | literal
  | longEscaped
  | longLiteral
  deriving DecidableEq, Repr

def needsCode (c : Char) : Bool := (c.toNat < 0x20 && c ≠ '\t' && c ≠ '\n') || c.toNat = 0x7F

def Spelling.of (cs : List Char) : Spelling :=
  let coded := cs.any needsCode
  let broken := '\n' ∈ cs
  let slashed := '\\' ∈ cs
  if ¬coded ∧ ¬slashed ∧ '"' ∉ cs ∧ ¬broken then escaped
  else if ¬coded ∧ '\'' ∉ cs ∧ ¬broken then literal
  else if ¬coded ∧ ¬slashed ∧ ¬Text.occursInChars ['"', '"', '"'] cs then longEscaped
  else if ¬coded ∧ ¬Text.occursInChars ['\'', '\'', '\''] cs then longLiteral
  else if broken then longEscaped
  else escaped

def escapeChar (c : Char) : List Char :=
  if c = '\x08' then ['\\', 'b']
  else if c = '\t' then ['\\', 't']
  else if c = '\x0c' then ['\\', 'f']
  else if c = '\r' then ['\\', 'r']
  else if c = '\\' then ['\\', '\\']
  else if needsCode c then '\\' :: 'u' :: Text.padZeros 4 (Text.digitsIn Text.upperHexLetters 16 c.toNat)
  else [c]

def escapeShort (c : Char) : List Char :=
  if c = '"' then ['\\', '"'] else if c = '\n' then ['\\', 'n'] else escapeChar c

/-- Line ends stay as they are. Of quotes in a row, a third one is escaped; `run` counts those that
    stand in front. -/
def escapeLong (run : Nat) : List Char → List Char
  | [] => []
  | c :: cs =>
    if c = '"' then
      if run < 2 then '"' :: escapeLong (run + 1) cs else '\\' :: '"' :: escapeLong 0 cs
    else if c = '\n' then '\n' :: escapeLong 0 cs
    else escapeChar c ++ escapeLong 0 cs

def longStart (cs : List Char) : List Char := if '\n' ∈ cs then ['\n'] else []

def writeChars (cs : List Char) : List Char :=
  match Spelling.of cs with
  | .escaped => '"' :: cs.flatMap escapeShort ++ ['"']
  | .literal => '\'' :: cs ++ ['\'']
  | .longEscaped => ['"', '"', '"'] ++ longStart cs ++ escapeLong 0 cs ++ ['"', '"', '"']
  | .longLiteral => ['\'', '\'', '\''] ++ longStart cs ++ cs ++ ['\'', '\'', '\'']

end TagConsole.Document.Toml
