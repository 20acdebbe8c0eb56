/-!
The lines that were entered, with a cursor to walk through them.
-/

namespace TagConsole.Console

/-- The latest entries, oldest first. Without a cursor the walk stands behind the newest. -/
structure History where
  capacity : Nat
  entries : List String := []
  cursor : Option Nat := none
  deriving DecidableEq, Repr

namespace History

def empty (capacity : Nat) : History := { capacity := max capacity 1 }

/-- Adds an entry, drops the oldest ones beyond the capacity, and ends the walk. -/
def push (history : History) (line : String) : History :=
  let entries := history.entries ++ [line]
  { history with entries := entries.drop (entries.length - history.capacity), cursor := none }

def previous (history : History) : Option String × History :=
  if history.entries.isEmpty then (none, history)
  else
    let index := match history.cursor with
      | none => history.entries.length - 1
      | some i => i - 1
    (history.entries[index]?, { history with cursor := some index })

/-- Steps forward. Behind the newest entry there is an empty line, and the walk ends. -/
def next (history : History) : Option String × History :=
  match history.cursor with
  | none => (none, history)
  | some i =>
    match history.entries[i + 1]? with
    | some line => (some line, { history with cursor := some (i + 1) })
    | none => (some "", { history with cursor := none })

end History

end TagConsole.Console
