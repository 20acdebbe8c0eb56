import TagConsole.CommandLine.Arguments
import TagConsole.Config.Loading
import TagConsole.Link.Bus

/-!
What the program finds on the host: files, the environment and devices.
-/

namespace TagConsole.CommandLine

structure Host where
  files : Files := {}
  environment : Environment := {}
  devices : List Link.Device := []

namespace Host

def refusal (files : Files) (path : String) : Link.Error :=
  .serial <| match files.find path with
    | .ok (.folder _) => Files.Failure.isFolder.reason
    | .ok (.file _) => "Not a typewriter"
    | .error .brokenName => "Invalid argument"
    | .error failure => failure.reason

def bus (host : Host) : Link.Bus := { devices := host.devices, absent := refusal host.files }

def config (host : Host) (arguments : Arguments) : Except Config.Error Config := do
  let config ← match arguments.config with
    | some path => Config.loadFrom host.files host.environment path
    | none => (Config.load host.files host.environment).map (·.config)
  return { config with logging.level := arguments.logLevel.getD config.logging.level }

end Host

end TagConsole.CommandLine
