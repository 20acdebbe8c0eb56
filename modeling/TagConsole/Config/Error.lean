import TagConsole.Text.Quoted

/-!
Why a configuration was refused.
-/

namespace TagConsole.Config

inductive Error where
  | read (path cause : String)
  | parse (path : String)
  | render
  | write (path cause : String)
  | invalid (header key reason : String)
  | env (name value expected : String)
  deriving DecidableEq, Repr

namespace Error

def message : Error → String
  | read path cause => "cannot read config file " ++ path ++ ": " ++ cause
  | parse path => "config file " ++ path ++ " is not valid TOML"
  | render => "cannot render config as TOML"
  | write path cause => "cannot write config file " ++ path ++ ": " ++ cause
  | invalid header key reason => "[" ++ header ++ "] " ++ key ++ " " ++ reason
  | env name value expected => name ++ "=" ++ Text.quoted value ++ " is not a valid " ++ expected

def variableName : Error → Option String
  | env name _ _ => some name
  | _ => none

end Error

end TagConsole.Config
