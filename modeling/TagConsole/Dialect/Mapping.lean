import TagConsole.Dialect.Phrase
import TagConsole.Hex
import TagConsole.Wire.Command

/-!
The device commands behind the few phrases that have one.
-/

namespace TagConsole.Dialect

open Wire (Command)

inductive MappingError where
  | unsupported (command : String)
  | invalidArgument (command reason : String)
  deriving DecidableEq, Repr

def MappingError.message : MappingError → String
  | unsupported command => "no device mapping for '" ++ command ++ "'"
  | invalidArgument command reason => "invalid argument for '" ++ command ++ "': " ++ reason

def Phrase.setSlot (phrase : Phrase) : List String → Except MappingError Command
  | [] => .error (.invalidArgument phrase.text "missing slot number")
  | slot :: _ =>
    match Wire.Slot.ofText slot with
    | .ok slot => .ok (.setSlot slot)
    | .error e => .error (.invalidArgument phrase.text e.message)

def Phrase.rawExchange (phrase : Phrase) (digits : List String) : Except MappingError Command :=
  match Hex.decodeArgs digits with
  | some bytes => .ok (.rawExchange bytes)
  | none => .error (.invalidArgument phrase.text "expected an even number of hex digits")

/-- Arguments are matched as they were typed; what follows a complete command is ignored. -/
def Phrase.command (phrase : Phrase) : Except MappingError Command :=
  match phrase.keyword, phrase.args with
  | "hw", "version" :: _ => .ok .getVersion
  | "hw", "status" :: _ => .ok .getVersion
  | "hf", "search" :: _ => .ok .scanTag
  | "hf", "14a" :: "info" :: _ => .ok .scanTag
  | "hf", "14a" :: "reader" :: _ => .ok .scanTag
  | "hf", "14a" :: "raw" :: digits => phrase.rawExchange digits
  | "data", "setslot" :: rest => phrase.setSlot rest
  | _, _ => .error (.unsupported phrase.text)

end TagConsole.Dialect
