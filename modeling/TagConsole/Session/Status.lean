import TagConsole.Duration
import TagConsole.Transport.Selection

/-!
What a session tells the world: its status, and why a call on it failed.
-/

namespace TagConsole.Session

inductive Status where
  | disconnected
  | connecting
  | connected
  | failed (reason : String)
  deriving DecidableEq, Repr

def Status.text : Status → String
  | disconnected => "Disconnected"
  | connecting => "Connecting"
  | connected => "Connected"
  | failed reason => "Error: " ++ reason

def Status.linkLost : Status := failed "link lost"

inductive Error where
  | notConnected
  | connect (cause : Transport.Error)
  | send (cause : Transport.Error)
  | timeout (waited : Duration)
  | linkClosed
  deriving DecidableEq, Repr

def Error.message : Error → String
  | notConnected => "Device not connected"
  | connect cause => "Connection failed: " ++ cause.message
  | send cause => "Failed to send command: " ++ cause.message
  | timeout waited => "No response from device within " ++ waited.text
  | linkClosed => "Link closed before a reply arrived"

end TagConsole.Session
