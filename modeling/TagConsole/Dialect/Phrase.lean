import TagConsole.Text.Case

/-!
One typed line, cut into a keyword and its arguments.
-/

namespace TagConsole.Dialect

inductive Family where
  | hf
  | lf
  | data
  | hw
  | script
  | trace
  | emv
  | other
  deriving DecidableEq, Repr

def familyNames : List (String × Family) :=
  [("hf", .hf), ("lf", .lf), ("data", .data), ("hw", .hw), ("script", .script), ("trace", .trace),
   ("emv", .emv)]

def Family.ofKeyword (keyword : String) : Family :=
  match familyNames.find? fun entry => Text.isPrefixOf entry.1 keyword with
  | some (_, family) => family
  | none => .other

structure Phrase where
  keyword : String
  args : List String
  deriving DecidableEq, Repr

namespace Phrase

def ofLine? (line : String) : Option Phrase :=
  match Text.words line with
  | [] => none
  | keyword :: args => some ⟨Text.lower keyword, args⟩

def text (phrase : Phrase) : String := Text.unwords (phrase.keyword :: phrase.args)

def family (phrase : Phrase) : Family := .ofKeyword phrase.keyword

end Phrase

end TagConsole.Dialect
