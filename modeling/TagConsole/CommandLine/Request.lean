import TagConsole.Text.Case
import TagConsole.Transport.Selection

/-!
Requests to the program itself: lines that start with a colon.
-/

namespace TagConsole.CommandLine

inductive Request where
  | connect (kind : Transport.Kind) (target : String)
  | disconnect
  | status
  | links
  | history
  | raw (digits : String)
  | other
  deriving DecidableEq, Repr

namespace Request

def ofWords : List String → Request
  | [] => other
  | name :: arguments =>
    let target := Text.unwords arguments
    match Text.lower name with
    | "usb" => connect .usb target
    | "radio" | "bt" => connect .radio target
    | "disconnect" => disconnect
    | "status" => status
    | "ports" => links
    | "history" => history
    | "raw" => raw (String.ofList (target.toList.filter (· ≠ ' ')))
    | _ => other

def ofLine? (line : String) : Option Request :=
  (Text.dropStart? ":" (Text.trim line)).map fun request => ofWords (Text.words request)

end Request

end TagConsole.CommandLine
