import GameDay.Inventory.Brokers

namespace GameDay.Inventory

open Cloud (TemplateSummary Findings Plan ServiceError)

def templateKey : String := "aws.fis.experiment.template.id"

def nameTag : String := "Name"

def templateTarget (t : TemplateSummary) : Target :=
  let id := t.id.getD ""
  let base : Target := { id, label := (t.tags.get? nameTag).getD id, kind := .template }
  let described := base.add templateKey id
    |>.addOption "aws.fis.experiment.template.description" t.description
    |>.addOption "aws.fis.experiment.template.last-update" (t.lastUpdate.map Timestamp.rfc3339)
  addLabels "aws.fis.experiment.template.label." t.tags described

inductive FetchError
  | refused (template : String) (error : ServiceError)
  | notReturned (template : String)
deriving DecidableEq

def FetchError.message : FetchError → String
  | refused template e => "GetExperimentTemplate " ++ template ++ " failed: " ++ e.text
  | notReturned template => "Experiment template " ++ template ++ " not returned"

def fetchActions (a : Access) (template : String) :
    Plan (Except FetchError Fis.TemplateActions) := do
  match ← Plan.send a (.getTemplate template) with
  | .error e => return .error (.refused template e)
  | .ok none => return .error (.notReturned template)
  | .ok (some t) => return .ok t.toActions

/-- The estimate for a template that was last updated at the given time. If there is none that
can be used, the actions are fetched and a new one is made and kept. -/
def estimate {ε : Type} (fetch : Plan (Except ε Fis.TemplateActions)) (template : String)
    (lastUpdate : Timestamp) : Plan (Except ε Duration) := do
  let known ← Plan.effect (.lookUp template)
  match known.bind (·.fresh? lastUpdate) with
  | some d => return .ok d
  | none =>
    match ← fetch with
    | .error e => return .error e
    | .ok actions =>
      Plan.effect (.record template actions.totalDuration)
      return .ok actions.totalDuration

def addDuration (d : Duration) (t : Target) : Target :=
  (t.add "aws.fis.experiment.template.duration" d.inUnits).add
    "aws.fis.experiment.template.duration.seconds" (toString d.secs)

def estimatedTarget (a : Access) (t : TemplateSummary) : Plan Target :=
  match t.id, t.lastUpdate with
  | some id, some lastUpdate => do
    match ← estimate (fetchActions a id) id lastUpdate with
    | .ok d => return addDuration d (templateTarget t)
    | .error _ => return templateTarget t
  | _, _ => return templateTarget t

def templates (limit : Nat) (a : Access) : Findings Target :=
  Cloud.pages (fun token => .send a (.listTemplates token)) .always
    (fun t => do return [a.stamp (← estimatedTarget a t)]) limit none

end GameDay.Inventory
