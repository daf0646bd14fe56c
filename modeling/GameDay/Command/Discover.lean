import GameDay.Cloud.Agent
import GameDay.Command.Loading
import GameDay.Text.Json

namespace GameDay.Command

open Text (Json column)

def notAfter (t u : Target) : Bool :=
  t.kind.rank < u.kind.rank || (t.kind.rank = u.kind.rank && t.id ≤ u.id)

def shown (kind : Option TargetKind) (targets : List Target) : List Target :=
  (targets.filter fun t => kind = none ∨ kind = some t.kind).mergeSort notAfter

def targetLine (kind label id : String) : String := kind ++ " " ++ column 40 label ++ " " ++ id

def targetTable (targets : List Target) : List String :=
  [targetLine (column 12 "KIND") "LABEL" "ID", Text.rule 100 '-'] ++
    targets.map (fun t => targetLine t.kind.shortName t.label t.id) ++
    ["", toString targets.length ++ " target(s)"]

def targetJson (t : Target) : Json :=
  .record [("id", .text t.id), ("label", .text t.label), ("kind", .text t.kind.name),
    ("attributes", .record (t.attributes.entries.map fun (key, values) =>
      (key, .list (values.map .text))))]

def targetsText (json : Bool) (targets : List Target) : String :=
  Text.lines
    (if json then [(Json.list (targets.map targetJson)).write Json.indented 0]
    else targetTable targets)

variable {W : Type} (cloud : Cloud W)

def discovered (settings : Cloud.Settings) (world : W) :
    Option (Except Error (List Target) × Cloud.AgentState W) :=
  let prepared := Cloud.prepare settings { scene := { world } }
  match prepared.answer with
  | .error e => some (.error e, prepared.world)
  | .ok () => (cloud.discover settings prepared.world).map fun found => (found.answer, found.world.shutDown)

def discover (l : Loaded) (kind : Option TargetKind) (json : Bool) (world : W) : Output :=
  match discovered cloud l.settings world with
  | none => { ends := false }
  | some (.error e, _) => ({} : Output).failing { message := e.message }
  | some (.ok targets, _) => { out := targetsText json (shown kind targets) }

end GameDay.Command
