import TagConsole.Duration

/-!
What can go wrong with one raw link.
-/

namespace TagConsole.Link

inductive FailureKind where
  | notFound
  | brokenPipe
  | interrupted
  | timedOut
  | wouldBlock
  | other
  deriving DecidableEq, Repr

inductive Error where
  | notFound (name : String)
  | io (kind : FailureKind) (text : String)
  | config (text : String)
  | timeout (waited : Duration)
  | closed
  | serial (text : String)
  deriving DecidableEq, Repr

namespace Error

def message : Error → String
  | notFound name => "Link not found: " ++ name
  | io _ text => "I/O error: " ++ text
  | config text => "Configuration error: " ++ text
  | timeout waited => "Operation timed out after " ++ waited.text
  | closed => "Link is closed"
  | serial text => "Serial port error: " ++ text

def isIdle : Error → Bool
  | timeout _ => true
  | io .timedOut _ => true
  | io .wouldBlock _ => true
  | _ => false

end Error

end TagConsole.Link
