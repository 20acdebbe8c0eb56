/-!
Documents: nested tables, lists and scalars, as a settings file or a message holds them.
-/

namespace TagConsole.Document

/-- How a table came about. It decides what may still be added to the table. -/
inductive Layout where
  | header
  | implied
  | dotted
  | braces
  | bracesDotted
  deriving DecidableEq, Repr

namespace Layout

def isClosed : Layout → Bool
  | braces | bracesDotted => true
  | _ => false

def isImplicit : Layout → Bool
  | implied | dotted | bracesDotted => true
  | _ => false

def isDotted : Layout → Bool
  | dotted | bracesDotted => true
  | _ => false

end Layout

inductive Value where
  | null
  | bool (b : Bool)
  | integer (n : Int)
  | real
  | date
  | text (s : String)
  | list (items : List Value)
  | tables (items : List (List (String × Value)))
  | table (layout : Layout) (entries : List (String × Value))
  deriving Repr, Inhabited

abbrev Entries := List (String × Value)

def Entries.replace (key : String) (value : Value) : Entries → Entries
  | [] => [(key, value)]
  | entry :: entries =>
    if entry.1 = key then (key, value) :: entries else entry :: Entries.replace key value entries

end TagConsole.Document
