import GameDay.Disruption.Basic
import GameDay.Inventory.Templates

namespace GameDay.Disruption

open Cloud (Action ExperimentState Plan)
open Yaml (Value)

structure TemplateRun where
  template : String
  experiment : String
deriving DecidableEq

namespace TemplateRun

def toValue (r : TemplateRun) : Value :=
  .record [("template_id", .text r.template), ("experiment_id", .text r.experiment)]

def reader : Decode.Reader Value TemplateRun :=
  Decode.record "ExperimentState"
    (mk <$> .required "template_id" Decode.text <*> .required "experiment_id" Decode.text)

end TemplateRun

def templateRunName : String := "aws.fis.run_experiment"

def startTemplate (ctx : Context Connection) : Action Handle := do
  let a ← accessOf ctx
  let template ← needed ctx.target Inventory.templateKey
  let token ← (Plan.effect .freshId : Plan _)
  match ← Action.send a (.startExperiment template token) with
  | some experiment =>
    started templateRunName ctx.target (TemplateRun.toValue { template, experiment })
  | none => throw (.cloud "StartExperiment returned no experiment")

def endStates : List String := ["completed", "stopped", "failed", "cancelled"]

def hasEnded (s : ExperimentState) : Bool :=
  match s.status with
  | some status => decide (status ∈ endStates)
  | none => false

def experimentStatus (s : ExperimentState) : SkillStatus :=
  match s.status with
  | none => .running
  | some status =>
    if status = "completed" then .completed
    else if status ∈ endStates then .failed (s.reason.getD ("experiment " ++ status))
    else .running

def templateProgress (ctx : Context Connection) (h : Handle) : Action SkillStatus := do
  let r ← kept TemplateRun.reader h
  let a ← accessOf ctx
  return experimentStatus (← Action.send a (.getExperiment r.experiment))

def stopTemplate (ctx : Context Connection) (h : Handle) : Action Unit := do
  let r ← kept TemplateRun.reader h
  let a ← accessOf ctx
  let state ← Action.send a (.getExperiment r.experiment)
  if hasEnded state then return ()
  else Action.send a (.stopExperiment r.experiment)

def templateRun : Disruption where
  descriptor :=
    { name := templateRunName
      description := "Start an experiment from an AWS FIS experiment template"
      kind := .template
      reversible := true }
  validate := noParams templateRunName
  execute := startTemplate
  status := templateProgress
  rollback := stopTemplate

end GameDay.Disruption
