import TagConsole.Config.Error
import TagConsole.Config.Schema
import TagConsole.Text.Numeral
import TagConsole.Text.Utf8

/-!
Settings from environment variables. They override those of a file, one by one and in a fixed order.
-/

namespace TagConsole

structure Environment where
  entries : List (String × List UInt8) := []
  /-- The home folder of the account, for when no variable names one. -/
  accountHome : Option String := none

def Environment.text? (env : Environment) (name : String) : Option String :=
  (env.entries.lookup name).bind Text.ofUtf8?

namespace Config

structure Override where
  variableName : String
  expected : String
  apply : String → Config → Option Config

namespace Override

def number (name expected : String) (most : Nat) (set : Config → Nat → Config) : Override :=
  ⟨name, expected, fun text config => (Text.readNat? most text).map (set config)⟩

def string (name expected : String) (set : Config → String → Config) : Override :=
  ⟨name, expected, fun text config => some (set config text)⟩

def all : List Override :=
  [number "CHAMELEON_TERM_LINK_BAUD_RATE" "baud rate" (UInt32.size - 1)
     fun config n => { config with link.baudRate := n },
   number "CHAMELEON_TERM_LINK_READ_TIMEOUT_MS" "timeout" (UInt64.size - 1)
     fun config n => { config with link.readTimeout := n },
   string "CHAMELEON_TERM_RADIO_NAME_FILTER" "name filter"
     fun config text => { config with radio.nameFilter := text },
   ⟨"CHAMELEON_TERM_RADIO_SERVICE_UUID", "service uuid", fun text config =>
     (Uuid.ofText? text).map fun uuid => { config with radio.serviceUuid := uuid }⟩,
   number "CHAMELEON_TERM_DEVICE_VERSION_TIMEOUT_MS" "timeout" (UInt64.size - 1)
     fun config n => { config with device.version := n },
   number "CHAMELEON_TERM_DEVICE_SCAN_TIMEOUT_MS" "timeout" (UInt64.size - 1)
     fun config n => { config with device.scan := n },
   number "CHAMELEON_TERM_DEVICE_SET_TIMEOUT_MS" "timeout" (UInt64.size - 1)
     fun config n => { config with device.set := n },
   number "CHAMELEON_TERM_DEVICE_RAW_TIMEOUT_MS" "timeout" (UInt64.size - 1)
     fun config n => { config with device.raw := n },
   number "CHAMELEON_TERM_TERMINAL_HISTORY_SIZE" "history size" (UInt64.size - 1)
     fun config n => { config with terminal.historySize := n },
   number "CHAMELEON_TERM_TERMINAL_OUTPUT_LIMIT" "output limit" (UInt64.size - 1)
     fun config n => { config with terminal.outputLimit := n },
   string "CHAMELEON_TERM_LOGGING_LEVEL" "log level"
     fun config text => { config with logging.level := text }]

/-- Applies one override, if its variable is set to a text. Blanks around the value do not count. -/
def run (env : Environment) (config : Config) (override : Override) : Except Error Config :=
  match env.text? override.variableName with
  | none => .ok config
  | some value =>
    match override.apply (Text.trim value) config with
    | some config => .ok config
    | none => .error (.env override.variableName value override.expected)

end Override

/-- Applies the overrides. The first value that does not fit stops them. -/
def withEnvironment (env : Environment) (config : Config) : Except Error Config :=
  Override.all.foldlM (Override.run env) config

end Config

end TagConsole
