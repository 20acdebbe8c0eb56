import TagConsole.Text.Utf8

/-!
A tree of files and folders, and what the system answers to reading, writing and making them. A path is
followed step by step, and of two failures the one that is met first counts.
-/

namespace TagConsole

inductive Files.Node where
  | file (bytes : List UInt8)
  | folder (entries : List (String × Files.Node))
  deriving Repr

abbrev Files.Entries := List (String × Files.Node)

/-- The folder at the root, and the names of the folders that lead to where relative paths start. -/
structure Files where
  root : Files.Entries := []
  current : List String := []
  deriving Repr

namespace Files

inductive Failure where
  | notFound
  | alreadyExists
  | notFolder
  | isFolder
  | nameTooLong
  | brokenName
  | notText
  deriving DecidableEq, Repr

def Failure.reason : Failure → String
  | notFound => "No such file or directory"
  | alreadyExists => "File exists"
  | notFolder => "Not a directory"
  | isFolder => "Is a directory"
  | nameTooLong => "File name too long"
  | brokenName => "file name contained an unexpected NUL byte"
  | notText => "stream did not contain valid UTF-8"

def Failure.code? : Failure → Option Nat
  | notFound => some 2
  | alreadyExists => some 17
  | notFolder => some 20
  | isFolder => some 21
  | nameTooLong => some 36
  | brokenName | notText => none

def Failure.text (failure : Failure) : String :=
  match failure.code? with
  | some code => failure.reason ++ " (os error " ++ toString code ++ ")"
  | none => failure.reason

def Entries.set (name : String) (node : Node) : Entries → Entries
  | [] => [(name, node)]
  | entry :: entries =>
    if entry.1 = name then (name, node) :: entries else entry :: Entries.set name node entries

def Entries.folder? (entries : Entries) (name : String) : Option Entries :=
  match entries.lookup name with
  | some (.folder sub) => some sub
  | _ => none

def Entries.put (node : Node) : List String → Entries → Entries
  | [], entries => entries
  | [name], entries => entries.set name node
  | name :: below, entries =>
    entries.set name (.folder (Entries.put node below ((entries.folder? name).getD [])))

def putFile (files : Files) (place : List String) (bytes : List UInt8) : Files :=
  { files with root := files.root.put (.file bytes) place }

def putFolder (files : Files) (place : List String) : Files :=
  { files with root := files.root.put (.folder []) place }

def splitSlashes : List Char → List (List Char)
  | [] => [[]]
  | '/' :: cs => [] :: splitSlashes cs
  | c :: cs =>
    match splitSlashes cs with
    | [] => [[c]]
    | part :: parts => (c :: part) :: parts

def join (path name : String) : String :=
  if path.isEmpty || path.toList.getLast? = some '/' then path ++ name else path ++ "/" ++ name

/-- The steps of a path, from the root or from the current folder. A slash at its end asks for a
    folder. -/
structure Path where
  fromRoot : Bool
  steps : List String
  asksFolder : Bool
  deriving DecidableEq, Repr

def Path.ofText (text : String) : Path :=
  ⟨text.toList.head? = some '/',
    ((splitSlashes text.toList).filter (· ≠ [])).map String.ofList,
    text.toList.getLast? = some '/'⟩

def longestPath : Nat := 4095

def longestName : Nat := 255

def textFailure? (size : Nat) (text : List Char) : Option Failure :=
  if '\x00' ∈ text then some .brokenName
  else if text.isEmpty then some .notFound
  else if longestPath < size then some .nameTooLong
  else none

def Path.read (text : String) : Except Failure Path :=
  match textFailure? text.utf8ByteSize text.toList with
  | some failure => .error failure
  | none => .ok (.ofText text)

/-- A node and the way up from it: its name in the folder above and what that folder holds, and so on
    to the root. -/
structure Spot where
  node : Node
  above : List (String × Entries) := []
  deriving Repr

def rootSpot (files : Files) : Spot := { node := .folder files.root }

def Spot.place (spot : Spot) : List String := (spot.above.map (·.1)).reverse

def isDots (step : String) : Bool := step = "." || step = ".."

def Spot.up (spot : Spot) : Spot :=
  match spot.above with
  | [] => spot
  | (_, entries) :: above => ⟨.folder entries, above⟩

def findIn (entries : Entries) (name : String) : Except Failure Node :=
  if longestName < name.utf8ByteSize then .error .nameTooLong
  else (entries.lookup name).elim (.error .notFound) .ok

def Spot.enter (spot : Spot) (step : String) : Except Failure Spot :=
  match spot.node with
  | .file _ => .error .notFolder
  | .folder entries =>
    if step = "." then .ok spot
    else if step = ".." then .ok spot.up
    else (findIn entries step).map fun node => ⟨node, (step, entries) :: spot.above⟩

def walk (files : Files) (fromRoot : Bool) (steps : List String) : Except Failure Spot := do
  let start ← if fromRoot then .ok files.rootSpot else files.current.foldlM Spot.enter files.rootSpot
  steps.foldlM Spot.enter start

def find (files : Files) (text : String) : Except Failure Node := do
  let path ← Path.read text
  match (← files.walk path.fromRoot path.steps).node with
  | .file bytes => if path.asksFolder then .error .notFolder else .ok (.file bytes)
  | .folder entries => .ok (.folder entries)

def has (files : Files) (text : String) : Bool := (files.find text).isOk

def readText (files : Files) (text : String) : Except Failure String := do
  match ← files.find text with
  | .folder _ => .error .isFolder
  | .file bytes => (Text.ofUtf8? bytes).elim (.error .notText) .ok

def folderAt (files : Files) (fromRoot : Bool) (steps : List String) :
    Except Failure (List String × Entries) := do
  let spot ← files.walk fromRoot steps
  match spot.node with
  | .file _ => .error .notFolder
  | .folder entries => .ok (spot.place, entries)

def makeFolder (files : Files) (fromRoot : Bool) : List String → Except Failure Files
  | [] => .error .alreadyExists
  | name :: above => do
    let (place, entries) ← files.folderAt fromRoot above.reverse
    if isDots name then .error .alreadyExists
    else match findIn entries name with
      | .ok _ => .error .alreadyExists
      | .error .notFound => .ok (files.putFolder (place ++ [name]))
      | .error failure => .error failure

def makeFolderUnlessThere (files : Files) (fromRoot : Bool) (steps : List String) :
    Except Failure Files :=
  match files.makeFolder fromRoot steps with
  | .ok files => .ok files
  | .error failure => if (files.folderAt fromRoot steps.reverse).isOk then .ok files else .error failure

/-- Makes a folder; if it has no folder to stand in, that one first. The steps stand in reverse order. -/
def makeFolders (files : Files) (fromRoot : Bool) : List String → Except Failure Files
  | [] => .ok files
  | name :: above =>
    match files.makeFolderUnlessThere fromRoot (name :: above) with
    | .error .notFound => do
      (← makeFolders files fromRoot above).makeFolderUnlessThere fromRoot (name :: above)
    | result => result

def isIdle (part : List Char) : Bool := part = [] || part = ['.']

/-- The text of the folder that a path stands in: the last step is cut off, and around it what makes no
    step. -/
def folderText (text : List Char) : List Char :=
  ['/'].intercalate
    ((((splitSlashes text).reverse.dropWhile isIdle).drop 1).dropWhile isIdle).reverse

/-- Makes the folder that a path stands in. A path that stands in the current folder or in the root asks
    for nothing. -/
def makeFolderOf (files : Files) (text : String) : Except Failure Files :=
  let folder := folderText text.toList
  let steps := (Path.ofText (String.ofList folder)).steps.filter (· ≠ ".")
  if steps.isEmpty then .ok files
  else match textFailure? (String.ofList folder).utf8ByteSize folder with
    | some failure => .error failure
    | none => files.makeFolders (Path.ofText text).fromRoot steps.reverse

def writeText (files : Files) (text contents : String) : Except Failure Files := do
  let path ← Path.read text
  match path.steps.reverse with
  | [] => .error .isFolder
  | name :: above =>
    let (place, entries) ← files.folderAt path.fromRoot above.reverse
    if isDots name || path.asksFolder then .error .isFolder
    else match findIn entries name with
      | .ok (.folder _) => .error .isFolder
      | .ok (.file _) | .error .notFound =>
        .ok (files.putFile (place ++ [name]) (Text.toUtf8 contents))
      | .error failure => .error failure

end Files

end TagConsole
