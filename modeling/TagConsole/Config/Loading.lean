import TagConsole.Config.Environment
import TagConsole.Document.Toml.Reader
import TagConsole.Document.Toml.Writer
import TagConsole.Files

/-!
Where a configuration comes from: a file if there is one, the environment over it, and a final check
that something can run with the result.
-/

namespace TagConsole.Config

def fileName : String := "chameleon-term.toml"

def pathVariable : String := "CHAMELEON_TERM_CONFIG"

def positiveSettings (config : Config) : List (String × String × Nat) :=
  [("link", "baud_rate", config.link.baudRate),
   ("link", "read_timeout_ms", config.link.readTimeout),
   ("link", "read_buffer", config.link.readBuffer),
   ("link", "inbound_capacity", config.link.inboundCapacity),
   ("terminal", "history_size", config.terminal.historySize),
   ("terminal", "output_limit", config.terminal.outputLimit)]

def validate (config : Config) : Except Error Config :=
  match config.positiveSettings.find? fun setting => setting.2.2 = 0 with
  | some (header, key, _) => .error (.invalid header key "must be greater than zero")
  | none => .ok config

def finish (env : Environment) (config : Config) : Except Error Config := do
  validate (← config.withEnvironment env)

def ofText? (text : String) : Option Config :=
  (Document.Toml.read text).bind (codec.read .file)

def readFile (files : Files) (path : String) : Except Error Config := do
  let text ← (files.readText path).mapError fun failure => .read path failure.text
  (ofText? text).elim (.error (.parse path)) .ok

def loadFrom (files : Files) (env : Environment) (path : String) : Except Error Config := do
  finish env (← readFile files path)

/-- The folder of the user's configuration: one that is named by an absolute path, or one in the home
    folder. A user without a home folder has none. -/
def defaultFolder (env : Environment) : Option String := do
  let home ← ((env.entries.lookup "HOME").map Text.ofUtf8Lossy).filter (· ≠ "") <|> env.accountHome
  let base := (env.entries.lookup "XDG_CONFIG_HOME").map Text.ofUtf8Lossy
  return Files.join ((base.filter (Text.isPrefixOf "/")).getD (Files.join home ".config")) "chameleon-term"

def defaultPath (env : Environment) : Option String := (defaultFolder env).map (Files.join · fileName)

/-- The files that are looked for when none is given: one named by a variable, one in the current
    folder and the user's own. -/
def candidates (env : Environment) : List String :=
  (env.text? pathVariable).toList ++ fileName :: (defaultPath env).toList

def resolve (files : Files) (env : Environment) : Option String := (candidates env).find? files.has

structure Loaded where
  path : Option String
  config : Config
  deriving DecidableEq, Repr

def load (files : Files) (env : Environment) : Except Error Loaded :=
  match resolve files env with
  | some path => do return ⟨some path, ← loadFrom files env path⟩
  | none => do return ⟨none, ← finish env {}⟩

/-- The defaults with the environment over them, or the defaults alone if the environment does not
    fit. -/
def withDefaults (env : Environment) : Config :=
  match finish env {} with
  | .ok config => config
  | .error _ => {}

def save (files : Files) (config : Config) (path : String) : Except Error Files := do
  let files ← (files.makeFolderOf path).mapError fun failure => .write path failure.text
  let text ← (Document.Toml.write (codec.write config)).elim (.error .render) .ok
  (files.writeText path text).mapError fun failure => .write path failure.text

end TagConsole.Config
