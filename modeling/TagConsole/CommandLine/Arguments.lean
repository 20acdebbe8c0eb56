import TagConsole.Text.Blank
import TagConsole.Transport.Selection

/-!
The arguments of the command line. They either say how to run, or end the program at once.
-/

namespace TagConsole.CommandLine

structure Arguments where
  config : Option String := none
  usb : Option String := none
  radio : Option String := none
  listsLinks : Bool := false
  commands : List String := []
  logLevel : Option String := none
  deriving DecidableEq, Repr

inductive Stop where
  | help
  | version
  | misuse
  deriving DecidableEq, Repr

def versionText : String := "chameleon-term 0.4.0\n"

def helpText : String :=
  String.intercalate "\n"
    ["Proxmark-style command terminal for Chameleon Ultra devices over USB serial or Bluetooth SPP.",
     "",
     "Usage: chameleon-term [OPTIONS]",
     "",
     "Options:",
     "      --config <CONFIG>        Configuration file path",
     "      --usb [<PORT>]           Connect over USB serial at startup, optionally to a given port",
     "      --radio [<NAME>]         Connect to a bonded radio peer at startup, optionally by name",
     "      --list                   List USB adapters and bonded radio peers, then exit",
     "  -c, --command <LINE>         Run a command and exit (repeatable)",
     "      --log-level <LOG_LEVEL>  Log filter, overriding the config file (RUST_LOG still wins)",
     "  -h, --help                   Print help",
     "  -V, --version                Print version",
     ""]

def Stop.text : Stop → String
  | help => helpText
  | version => versionText
  | misuse => ""

def Stop.exitCode : Stop → Nat
  | help | version => 0
  | misuse => 2

inductive Valued where
  | config
  | usb
  | radio
  | command
  | logLevel
  deriving DecidableEq, Repr

def Valued.all : List (String × Valued) :=
  [("config", config), ("usb", usb), ("radio", radio), ("command", command), ("log-level", logLevel)]

namespace Arguments

def once (before : Option String) (value : String) : Except Stop (Option String) :=
  match before with
  | none => .ok (some value)
  | some _ => .error .misuse

/-- Adds the value of an option. Only commands may be given more than once, and no path is empty. -/
def add (given : Arguments) (option : Valued) (value : String) : Except Stop Arguments :=
  match option with
  | .config =>
    if value.isEmpty then .error .misuse
    else (once given.config value).map fun config => { given with config := config }
  | .usb => (once given.usb value).map fun usb => { given with usb := usb }
  | .radio => (once given.radio value).map fun radio => { given with radio := radio }
  | .command => .ok { given with commands := given.commands ++ [value] }
  | .logLevel => (once given.logLevel value).map fun logLevel => { given with logLevel := logLevel }

def addBare (given : Arguments) : Option Valued → Except Stop Arguments
  | none => .ok given
  | some .usb => given.add .usb ""
  | some .radio => given.add .radio ""
  | some .config | some .command | some .logLevel => .error .misuse

abbrev Reading := Except Stop (Arguments × Option Valued)

def addAttached (given : Arguments) (option : Valued) : Option String → Reading
  | some value => (given.add option value).map (·, none)
  | none => .ok (given, some option)

def readLong (given : Arguments) (argument : List Char) : Reading :=
  let name := String.ofList (argument.takeWhile (· ≠ '='))
  let attached := match argument.dropWhile (· ≠ '=') with
    | [] => none
    | _ :: value => some (String.ofList value)
  match Valued.all.lookup name, name, attached with
  | some option, _, _ => given.addAttached option attached
  | none, "list", none =>
    if given.listsLinks then .error .misuse else .ok ({ given with listsLinks := true }, none)
  | none, "help", none => .error .help
  | none, "version", none => .error .version
  | none, _, _ => .error .misuse

def readShort (given : Arguments) : List Char → Reading
  | ['c'] => given.addAttached .command none
  | 'c' :: '=' :: value | 'c' :: value => given.addAttached .command (some (String.ofList value))
  | 'h' :: _ => .error .help
  | 'V' :: _ => .error .version
  | _ => .error .misuse

/-- Reads the arguments after those that were read. An option without a value is ended before the next
    one is looked at. -/
def readFrom (given : Arguments) (waiting : Option Valued) : List String → Except Stop Arguments
  | [] => given.addBare waiting
  | argument :: later =>
    match argument.toList with
    | ['-', '-'] => if later.isEmpty then given.addBare waiting else .error .misuse
    | '-' :: '-' :: long => do
      let (given, waiting) ← (← given.addBare waiting).readLong long
      readFrom given waiting later
    | '-' :: c :: short => do
      let (given, waiting) ← (← given.addBare waiting).readShort (c :: short)
      readFrom given waiting later
    | _ =>
      match waiting with
      | none => .error .misuse
      | some option => do readFrom (← given.add option argument) none later

def read (arguments : List String) : Except Stop Arguments := do
  let given ← readFrom {} none arguments
  if given.usb.isSome && given.radio.isSome then .error .misuse else .ok given

def startLink (given : Arguments) : Option (Transport.Kind × String) :=
  (given.usb.map (Transport.Kind.usb, ·)) <|> given.radio.map (Transport.Kind.radio, ·)

end Arguments

end TagConsole.CommandLine
