import TagConsole.Document.Value

/-!
Tables while they are being built. A header or a dotted key may pass through tables that exist, and it
makes those that do not; a table is defined once, by its header, by its braces or by dotted keys.
-/

namespace TagConsole.Document.Toml

structure Path where
  parents : List String
  key : String
  deriving DecidableEq, Repr

/-- Whether a path that makes tables of one layout may pass through a table of another. -/
def mayEnter (made entered : Layout) : Bool :=
  made.isClosed == entered.isClosed && (!made.isDotted || entered.isImplicit)

def within {α : Type} (made : Layout) (change : Layout → Entries → Option (α × Entries)) :
    List String → Layout → Entries → Option (α × Entries)
  | [], layout, entries => change layout entries
  | key :: parents, _, entries =>
    match entries.lookup key with
    | none => do
      let (found, sub) ← within made change parents made []
      return (found, entries ++ [(key, .table made sub)])
    | some (.table layout sub) =>
      if mayEnter made layout then do
        let (found, sub) ← within made change parents layout sub
        return (found, entries.replace key (.table layout sub))
      else none
    | some (.tables items) => do
      let (found, sub) ← within made change parents .header (items.getLast?.getD [])
      return (found, entries.replace key (.tables (items.dropLast ++ [sub])))
    | some _ => none

/-- Adds a value under a new key. A dotted key adds only to a table that dotted keys made. -/
def addValue (made : Layout) (path : Path) (value : Value) (layout : Layout) (entries : Entries) :
    Option Entries :=
  (within made (fun layout entries =>
      if layout.isDotted = path.parents.isEmpty || (entries.lookup path.key).isSome then none
      else some ((), entries ++ [(path.key, value)])) path.parents layout entries).map (·.2)

inductive Heading where
  | document
  | table (path : Path)
  | item (path : Path)
  deriving DecidableEq, Repr

structure Draft where
  root : Entries := []
  heading : Heading := .document
  entries : Entries := []

namespace Draft

def add (doc : Draft) (path : Path) (value : Value) : Option Draft := do
  return { doc with entries := ← addValue .dotted path value .header doc.entries }

def close (doc : Draft) : Option Entries :=
  match doc.heading with
  | .document => some doc.entries
  | .table path =>
    (within .implied (fun _ entries =>
      some ((), entries ++ [(path.key, .table .header doc.entries)])) path.parents .header
      doc.root).map (·.2)
  | .item path =>
    (within .implied (fun _ entries =>
      match entries.lookup path.key with
      | none => some ((), entries ++ [(path.key, .tables [doc.entries])])
      | some (.tables items) => some ((), entries.replace path.key (.tables (items ++ [doc.entries])))
      | some _ => none) path.parents .header doc.root).map (·.2)

/-- Starts the table of a header. A table that so far only stands above others goes on; any other is
    complete. -/
def openTable (doc : Draft) (path : Path) : Option Draft := do
  let (entries, root) ← within .implied (fun _ entries =>
    match entries.lookup path.key with
    | none => some ([], entries)
    | some (.table .implied sub) => some (sub, entries.filter (·.1 ≠ path.key))
    | some _ => none) path.parents .header (← doc.close)
  return ⟨root, .table path, entries⟩

def openItem (doc : Draft) (path : Path) : Option Draft := do
  return ⟨← doc.close, .item path, []⟩

end Draft

end TagConsole.Document.Toml
