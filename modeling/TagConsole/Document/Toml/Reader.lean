import TagConsole.Document.Toml.Number
import TagConsole.Document.Toml.Quoting
import TagConsole.Document.Toml.Table

/-!
Reading TOML documents.
-/

namespace TagConsole.Document.Toml

def maxNesting : Nat := 79

def maxParts : Nat := 79

def isBare (c : Char) : Bool := c.isAlphanum || c = '_' || c = '-'

def readPart : Reader String := fun cs =>
  let bare := cs.takeWhile isBare
  if bare.isEmpty then (readShort cs).map fun (part, rest) => (String.ofList part, rest)
  else some (String.ofList bare, cs.dropWhile isBare)

def readPathParts : Nat → Reader Path
  | 0, _ => none
  | fuel + 1, cs => do
    let (part, rest) ← readPart (skipGaps cs)
    match skipGaps rest with
    | '.' :: rest => do
      let (path, rest) ← readPathParts fuel rest
      return ({ path with parents := part :: path.parents }, rest)
    | rest => return (⟨[], part⟩, rest)

def readPath : Reader Path := readPathParts maxParts

def readItems (readOne : Reader Value) : Nat → Reader (List Value)
  | 0, _ => none
  | fuel + 1, cs =>
    match skipLayout false cs with
    | ']' :: rest => some ([], rest)
    | cs => do
      let (value, rest) ← readOne cs
      match skipLayout false rest with
      | ',' :: rest => do
        let (values, rest) ← readItems readOne fuel rest
        return (value :: values, rest)
      | ']' :: rest => return ([value], rest)
      | _ => none

def readPair (readOne : Reader Value) : Reader (Path × Value) := fun cs => do
  let (path, rest) ← readPath cs
  let (value, rest) ← readOne (skipGaps (← skipChar? '=' rest))
  return ((path, value), rest)

def readPairs (readOne : Reader Value) : Nat → Entries → Reader Entries
  | 0, _, _ => none
  | fuel + 1, entries, cs => do
    let ((path, value), rest) ← readPair readOne cs
    let entries ← addValue .bracesDotted path value .braces entries
    match skipGaps rest with
    | ',' :: rest => readPairs readOne fuel entries rest
    | '}' :: rest => return (entries, rest)
    | _ => none

def readBraces (readOne : Reader Value) : Reader Entries := fun cs =>
  match skipGaps cs with
  | '}' :: rest => some ([], rest)
  | _ => readPairs readOne (cs.length + 1) [] cs

def readValue : Nat → Reader Value
  | depth, cs =>
    match cs, depth with
    | '"' :: _, _ | '\'' :: _, _ => (readString cs).map fun (s, rest) => (.text s, rest)
    | 't' :: 'r' :: 'u' :: 'e' :: rest, _ => some (.bool true, rest)
    | 'f' :: 'a' :: 'l' :: 's' :: 'e' :: rest, _ => some (.bool false, rest)
    | '[' :: rest, depth + 1 =>
      (readItems (readValue depth) (rest.length + 1) rest).map fun (values, rest) => (.list values, rest)
    | '{' :: rest, depth + 1 =>
      (readBraces (readValue depth) rest).map fun (entries, rest) => (.table .braces entries, rest)
    | _, _ => readNumber cs

def readHeader (closing : Nat) : Reader Path := fun cs => do
  let (path, rest) ← readPath cs
  if rest.take closing = List.replicate closing ']' then return (path, rest.drop closing) else none

def readLine (doc : Draft) : Reader Draft := fun cs =>
  match skipGaps cs with
  | '[' :: '[' :: rest => do
    let (path, rest) ← readHeader 2 rest
    return (← doc.openItem path, ← endLine? rest)
  | '[' :: rest => do
    let (path, rest) ← readHeader 1 rest
    return (← doc.openTable path, ← endLine? rest)
  | cs =>
    match endLine? cs with
    | some rest => some (doc, rest)
    | none => do
      let ((path, value), rest) ← readPair (readValue maxNesting) cs
      return (← doc.add path value, ← endLine? rest)

def readLines : Nat → Draft → List Char → Option Draft
  | 0, _, _ => none
  | fuel + 1, doc, cs =>
    if cs.isEmpty then some doc
    else do
      let (doc, rest) ← readLine doc cs
      readLines fuel doc rest

def read (text : String) : Option Value := do
  let cs := text.toList
  let cs := if cs.head? = some '\uFEFF' then cs.tail else cs
  let doc ← readLines (cs.length + 1) {} cs
  return .table .header (← doc.close)

end TagConsole.Document.Toml
