import TagConsole.Text.Case

/-!
Links as the host lists them.
-/

namespace TagConsole.Link

inductive Hardware where
  | usb
  | bluetooth
  | other
  deriving DecidableEq, Repr

structure Info where
  path : String
  hardware : Hardware
  name : Option String
  deriving DecidableEq, Repr

namespace Info

def displayName (info : Info) : String := info.name.getD info.path

def text (info : Info) : String :=
  match info.name with
  | some name => info.path ++ " (" ++ name ++ ")"
  | none => info.path

/-- A target names a link by its exact path, or by its name up to the case of ASCII letters. -/
def isNamedBy (info : Info) (target : String) : Bool :=
  info.path == target || info.name.any (Text.sameAsciiFolded · target)

end Info

inductive Description where
  | usb (product manufacturer : Option String)
  | bluetooth
  | other
  deriving DecidableEq, Repr

def peerNameOfPath (path : String) : Option String :=
  let file := (path.toList.reverse.takeWhile fun c => c ≠ '/' && c ≠ '\\').reverse
  let name :=
    if ['c', 'u', '.'].isPrefixOf file then file.drop 3
    else if ['t', 't', 'y', '.'].isPrefixOf file then file.drop 4
    else file
  if name.isEmpty then none else some (String.ofList name)

/-- A node of the RFCOMM driver is a radio link whatever the system calls it. -/
def Info.ofDescription (path : String) : Description → Info
  | .usb product manufacturer => ⟨path, .usb, product <|> manufacturer⟩
  | .bluetooth => ⟨path, .bluetooth, peerNameOfPath path⟩
  | .other => ⟨path, if Text.occursIn "rfcomm" path then .bluetooth else .other, none⟩

end TagConsole.Link
