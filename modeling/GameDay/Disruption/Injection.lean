import GameDay.Disruption.Basic
import GameDay.Disruption.FailureSettings
import GameDay.Inventory.Functions

namespace GameDay.Disruption

open Cloud (Action Plan)
open Yaml (Value)

structure Injected where
  parameter : String
  previous : Option String
deriving DecidableEq

namespace Injected

def toValue (i : Injected) : Value :=
  .record [("parameter", .text i.parameter), ("previous", i.previous.elim .null .text)]

def reader : Decode.Reader Value Injected :=
  Decode.record "InjectionState"
    (mk <$> .required "parameter" Decode.text <*>
      .optional "previous" (Decode.OfValue.option Decode.text) none)

end Injected

def currentValue (a : Access) (parameter : String) : Action (Option String) := do
  match ← (Plan.send a (.getParameter parameter) : Plan _) with
  | .ok value => return value
  | .error e =>
    if e.isMissingParameter then return none
    else throw (Action.refused ("GetParameter " ++ parameter) e)

def setValue (a : Access) (parameter value : String) : Action Unit :=
  Action.send a (.putParameter parameter value) ("PutParameter " ++ parameter)

def removeValue (a : Access) (parameter : String) : Action Unit := do
  match ← (Plan.send a (.deleteParameter parameter) : Plan _) with
  | .ok () => return ()
  | .error e =>
    if e.isMissingParameter then return ()
    else throw (Action.refused ("DeleteParameter " ++ parameter) e)

def inject (ctx : Context Connection) : Action Handle := do
  let settings ← FailureSettings.ofParams ctx.params
  let a ← accessOf ctx
  let parameter ← needed ctx.target Inventory.failureParameterKey
  let previous ← currentValue a parameter
  setValue a parameter settings.document
  started FailureSettings.skillName ctx.target (Injected.toValue { parameter, previous })

def restore (ctx : Context Connection) (h : Handle) : Action Unit := do
  let injected ← kept Injected.reader h
  let a ← accessOf ctx
  match injected.previous with
  | some value => setValue a injected.parameter value
  | none => removeValue a injected.parameter

def injection : Disruption where
  descriptor :=
    { name := FailureSettings.skillName
      description := "Inject latency, exceptions, status codes, disk fill or denylisted calls " ++
        "into a Lambda function"
      kind := .lambda
      reversible := true }
  validate params := (FailureSettings.ofParams params).map fun _ => ()
  execute := inject
  status _ _ := return .running
  rollback := restore

end GameDay.Disruption
