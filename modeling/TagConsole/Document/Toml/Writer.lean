import TagConsole.Document.Toml.Number
import TagConsole.Document.Toml.Quoting

/-!
Writing TOML documents that consist of sections: each has a header, and a line for each of its entries.
-/

namespace TagConsole.Document.Toml

def writeScalar : Value → Option (List Char)
  | .text s => some (writeChars s.toList)
  | .integer n => if Text.inInt64 n then some (toString n).toList else none
  | _ => none

def writeEntry : String × Value → Option (List Char)
  | (key, value) => do
    return key.toList ++ [' ', '=', ' '] ++ (← writeScalar value) ++ ['\n']

def writeSection : String × Value → Option (List Char)
  | (name, .table _ entries) => do
    return '[' :: name.toList ++ [']', '\n'] ++ (← entries.mapM writeEntry).flatten
  | _ => none

def write : Value → Option String
  | .table _ sections => do
    return String.ofList (['\n'].intercalate (← sections.mapM writeSection))
  | _ => none

end TagConsole.Document.Toml
