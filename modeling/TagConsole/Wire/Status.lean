/-!
The statuses that a reply can carry.
-/

namespace TagConsole.Wire

inductive Status where
  | ok
  | error
  | invalidParam
  | timeout
  deriving DecidableEq, Repr

namespace Status

def all : List Status := [ok, error, invalidParam, timeout]

def byte : Status → UInt8
  | ok => 0
  | error => 1
  | invalidParam => 2
  | timeout => 3

def name : Status → String
  | ok => "OK"
  | error => "ERROR"
  | invalidParam => "INVALID_PARAM"
  | timeout => "TIMEOUT"

def ofByte? (b : UInt8) : Option Status := all.find? (·.byte == b)

end Status

end TagConsole.Wire
