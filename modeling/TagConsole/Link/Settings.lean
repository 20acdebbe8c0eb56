import TagConsole.Duration

/-!
Line settings, applied when a link is opened.
-/

namespace TagConsole.Link

inductive DataBits where
  | five
  | six
  | seven
  | eight
  deriving DecidableEq, Repr

def DataBits.all : List (String × DataBits) :=
  [("five", five), ("six", six), ("seven", seven), ("eight", eight)]

inductive Parity where
  | none
  | odd
  | even
  deriving DecidableEq, Repr

def Parity.all : List (String × Parity) := [("none", none), ("odd", odd), ("even", even)]

inductive StopBits where
  | one
  | two
  deriving DecidableEq, Repr

def StopBits.all : List (String × StopBits) := [("one", one), ("two", two)]

inductive FlowControl where
  | none
  | software
  | hardware
  deriving DecidableEq, Repr

def FlowControl.all : List (String × FlowControl) :=
  [("none", none), ("software", software), ("hardware", hardware)]

def nameOf {α : Type} [DecidableEq α] (names : List (String × α)) (value : α) : String :=
  ((names.find? (·.2 = value)).map (·.1)).getD ""

def DataBits.name : DataBits → String := nameOf all

def Parity.name : Parity → String := nameOf all

def StopBits.name : StopBits → String := nameOf all

def FlowControl.name : FlowControl → String := nameOf all

structure Settings where
  baudRate : Nat
  dataBits : DataBits
  flowControl : FlowControl
  parity : Parity
  stopBits : StopBits
  readTimeout : Duration
  deriving DecidableEq, Repr

end TagConsole.Link
