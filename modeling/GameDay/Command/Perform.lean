import GameDay.Command.Args
import GameDay.Command.Discover
import GameDay.Command.ListSkills
import GameDay.Command.Run
import GameDay.Command.Validate

namespace GameDay.Command

variable {W : Type} (cloud : Cloud W) (files : Files)

def versionText : String := "chaos-aws 0.1.0"

def outputOf : Except Failure Output → Output
  | .ok o => o
  | .error f => ({} : Output).failing f

def performRequest (r : Request) (world : W) : Except Failure Output :=
  match r.verb with
  | .run only dryRun => do
    return run cloud (← load files r.config) only dryRun world
  | .discover kind json => do
    let kind ← kindNamed kind
    return discover cloud (← load files r.config) kind json world
  | .listSkills kind => do
    return listSkills (← kindNamed kind)
  | .validate => do
    return validate (← load files r.config)
  | .version => return { out := Text.lines [versionText] }

def perform (environment : Option String) (words : List String) (world : W) : Output :=
  match Args.read? environment words with
  | none => Output.usage
  | some r => outputOf (performRequest cloud files r world)

end GameDay.Command
