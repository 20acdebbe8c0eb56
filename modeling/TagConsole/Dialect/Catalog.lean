import TagConsole.Text.Case

/-!
The commands that the dialect knows by name, and the fewer that reach a device.
-/

namespace TagConsole.Dialect

/-- Every known command, in the order in which suggestions are made. -/
def knownCommands : List String :=
  ["hf search", "hf 14a info", "hf 14a reader", "hf 14a raw", "hf 14a apdu", "hf 14a dump",
   "hf 14a clone", "hf 14b info", "hf 14b reader", "hf 14b raw", "hf 15 info", "hf 15 reader",
   "hf mf rdbl", "hf mf rdsc", "hf mf wrbl", "hf mf chk", "hf mf nested", "hf mf hardnested",
   "hf mf autopwn", "hf mf dump", "hf mf restore", "hf mf clone", "hf mfu info", "hf mfu dump",
   "hf mfu wrbl", "lf search", "lf read", "lf tune", "lf em 410x reader", "lf em 410x clone",
   "lf em 410x dump", "lf hid reader", "lf hid clone", "lf indala reader", "lf indala clone",
   "lf t55xx detect", "lf t55xx read", "lf t55xx write", "lf t55xx dump", "data hex2bin",
   "data bin2hex", "data bitsamples", "data samples", "data autocorr", "data dirthreshold",
   "data undecimate", "hw status", "hw ping", "hw version", "hw tune", "hw setlfdivisor",
   "hw setmux", "hw reset", "hw standalone", "help", "quit", "exit", "clear", "cls"]

def executableCommands : List (String × String) :=
  [("hw version", "Get device firmware version"),
   ("hw status", "Get device status"),
   ("hf search", "Search for HF tags"),
   ("hf 14a info", "Get ISO14443A tag info"),
   ("hf 14a reader", "Read ISO14443A tag"),
   ("hf 14a raw <hex>", "Send raw ISO14443A command"),
   ("data setslot <0-7>", "Set active emulation slot"),
   ("help", "Show this help"),
   ("clear", "Clear terminal"),
   ("quit", "Exit application")]

def helpLines : List String := executableCommands.map fun (usage, purpose) => usage ++ " - " ++ purpose

def describe (command : String) : String :=
  match Text.lower (Text.trim command) with
  | "hw version" => "Get device firmware version"
  | "hw status" => "Get device status information"
  | "hf search" => "Search for HF tags"
  | "hf 14a info" => "Get ISO14443A tag information"
  | "hf 14a reader" => "Read ISO14443A tag"
  | "hf 14a raw" => "Send raw ISO14443A command"
  | "data setslot" => "Set active emulation slot (0-7)"
  | "help" => "Show available commands"
  | "quit" | "exit" => "Exit the application"
  | "clear" | "cls" => "Clear terminal output"
  | _ => "Unknown command. Type 'help' for available commands."

def isKnown (start : String) : Bool :=
  knownCommands.any (Text.isPrefixOf (Text.lower start))

def maxSuggestions : Nat := 10

def suggest (start : String) : List String :=
  (knownCommands.filter (Text.isPrefixOf (Text.lower start))).take maxSuggestions

end TagConsole.Dialect
