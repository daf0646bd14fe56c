import GameDay.Cloud.Settings
import GameDay.Command.Output
import GameDay.Config

namespace GameDay.Command

inductive FileFault
  | missing
  | directory
  | notDirectory
  | other (text : String)
deriving DecidableEq

def FileFault.text : FileFault → String
  | missing => "No such file or directory (os error 2)"
  | directory => "Is a directory (os error 21)"
  | notDirectory => "Not a directory (os error 20)"
  | other text => text

abbrev Files : Type := String → Except FileFault String

structure Loaded where
  path : String
  config : Config
  settings : Cloud.Settings

def readConfig (files : Files) (path : String) : Except Error Config :=
  match files path with
  | .ok text => Config.ofText text
  | .error fault => .error (.config ("Cannot read " ++ path ++ ": " ++ fault.text))

def load (files : Files) : Option String → Except Failure Loaded
  | none => .error { message := "No config file given (use --config or CHAOS_AWS_CONFIG)" }
  | some path => do
    let config ← (readConfig files path).mapError fun e =>
      { message := "Failed to load " ++ path, cause := some e.message }
    let settings ← (Cloud.Settings.ofValue config.targetConfig).mapError fun e =>
      { message := "Invalid target_config in " ++ path, cause := some e.message }
    return { path, config, settings }

def kindNamed : Option String → Except Failure (Option TargetKind)
  | none => .ok none
  | some name => match TargetKind.ofShortName? name with
    | some kind => .ok (some kind)
    | none => .error { message := "Unknown target kind '" ++ name ++ "'" }

end GameDay.Command
