import TagConsole.Config.Error
import TagConsole.Device.Operation

/-!
Failures as the operator sees them.
-/

namespace TagConsole.Console

inductive Failure where
  | badFormat
  | unknownCommand (keyword : String) (suggestions : List String)
  | unsupported (command : String)
  | notConnected
  | transport (cause : String)
  | timeout (waited : Duration)
  | device (cause : String)
  | config (cause : Config.Error)
  | io (cause : String)
  deriving DecidableEq, Repr

namespace Failure

def message : Failure → String
  | badFormat => "Invalid command format"
  | unknownCommand keyword _ => "Unknown command: " ++ keyword
  | unsupported command => "Command not supported: " ++ command
  | notConnected => "Device not connected"
  | transport cause => "Failed to send command: " ++ cause
  | timeout waited => "No response from device within " ++ waited.secondsText ++ "s"
  | device cause => cause
  | config cause => cause.message
  | io cause => "An I/O error occurred: " ++ cause

def hint : Failure → Option String
  | unknownCommand _ (first :: others) =>
    some ("Did you mean: " ++ String.intercalate ", " (first :: others))
  | _ => none

def ofSession : Session.Error → Failure
  | .notConnected => notConnected
  | .timeout waited => timeout waited
  | .connect cause | .send cause => transport cause.message
  | .linkClosed => transport "link closed before a reply arrived"

def ofDevice : Device.Error → Failure
  | .session cause => ofSession cause
  | cause => device cause.message

end Failure

end TagConsole.Console
