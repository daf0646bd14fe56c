import GameDay.Command.Loading
import GameDay.Disruption.Catalogue

namespace GameDay.Command

open Text (column)

def skillLine (name kind reversible description : String) : String :=
  column 28 name ++ " " ++ kind ++ " " ++ column 10 reversible ++ " " ++ description

def skillTable (kind : Option TargetKind) : List String :=
  let shown := (Disruption.all.map Disruption.descriptor).filter fun d =>
    kind = none ∨ kind = some d.kind
  [skillLine "SKILL" (column 12 "TARGET") "REVERSIBLE" "DESCRIPTION", Text.rule 100 '-'] ++
    shown.map fun d =>
      skillLine d.name d.kind.shortName (if d.reversible then "yes" else "no") d.description

def listSkills (kind : Option TargetKind) : Output := { out := Text.lines (skillTable kind) }

end GameDay.Command
