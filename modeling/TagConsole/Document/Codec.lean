import TagConsole.Document.Value

/-!
Reading typed values from documents and writing them back. A record is read from a table by key or
from a list by position; either way what is missing keeps its default.
-/

namespace TagConsole.Document

/-- The two forms in which documents come. They differ in what stands for a record or a choice. -/
inductive Form where
  | file
  | message
  deriving DecidableEq, Repr

structure Codec (α : Type) where
  read : Form → Value → Option α
  write : α → Value

namespace Codec

def number (most : Nat) : Codec Nat where
  read
    | _, .integer n => if 0 ≤ n ∧ n ≤ most then some n.toNat else none
    | _, _ => none
  write n := .integer n

def string : Codec String where
  read
    | _, .text s => some s
    | _, _ => none
  write := .text

def isUnit : Form → Value → Bool
  | .file, .list [] | .file, .table _ [] => true
  | .message, .null => true
  | _, _ => false

def choiceName : Form → Value → Option String
  | _, .text name => some name
  | form, .table _ [(name, value)] => if isUnit form value then some name else none
  | _, _ => none

def choice {α : Type} (named : List (String × α)) (name : α → String) : Codec α where
  read form value := (choiceName form value).bind fun name => named.lookup name
  write value := .text (name value)

end Codec

structure Member (σ : Type) where
  key : String
  set : Form → Value → σ → Option σ
  get : σ → Value

def Member.of {σ α : Type} (key : String) (codec : Codec α) (get : σ → α) (set : σ → α → σ) : Member σ where
  key := key
  set form value record := (codec.read form value).map (set record)
  get record := codec.write (get record)

def setEntries {σ : Type} (members : List (Member σ)) (form : Form) : Entries → σ → Option σ
  | [], record => some record
  | (key, value) :: entries, record =>
    match members.find? (·.key == key) with
    | some field => do setEntries members form entries (← field.set form value record)
    | none => setEntries members form entries record

/-- Reads a list. Items beyond the last field are skipped in a file and refused in a message. -/
def setItems {σ : Type} (form : Form) : List (Member σ) → List Value → σ → Option σ
  | _, [], record => some record
  | [], _ :: _, record => if form = .file then some record else none
  | field :: members, value :: values, record => do
    setItems form members values (← field.set form value record)

/-- A record with a default for every field. A date is a table without any of the members. -/
def Codec.record {σ : Type} (members : List (Member σ)) (default : σ) : Codec σ where
  read
    | form, .table _ entries => setEntries members form entries default
    | form, .list values => setItems form members values default
    | .file, .date => some default
    | _, _ => none
  write record := .table .header (members.map fun field => (field.key, field.get record))

end TagConsole.Document
