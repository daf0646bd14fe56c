import GameDay.Disruption.Basic
import GameDay.Inventory.Brokers

namespace GameDay.Disruption

open Cloud (Action)
open Yaml (Value)

structure Rebooted where
  cluster : String
  broker : String
  operation : String
deriving DecidableEq

namespace Rebooted

def toValue (r : Rebooted) : Value :=
  .record [("cluster_arn", .text r.cluster), ("broker_id", .text r.broker),
    ("operation_arn", .text r.operation)]

def reader : Decode.Reader Value Rebooted :=
  Decode.record "RebootState"
    (mk <$> .required "cluster_arn" Decode.text <*> .required "broker_id" Decode.text <*>
      .required "operation_arn" Decode.text)

end Rebooted

def rebootName : String := "aws.msk.reboot_broker"

def rebootBroker (ctx : Context Connection) : Action Handle := do
  let a ← accessOf ctx
  let cluster ← needed ctx.target Inventory.clusterKey
  let broker ← needed ctx.target Inventory.brokerKey
  match ← Action.send a (.rebootBroker cluster broker) with
  | some operation => started rebootName ctx.target (Rebooted.toValue { cluster, broker, operation })
  | none => throw (.cloud "RebootBroker returned no cluster operation")

def operationStatus (info : Cloud.OperationInfo) : SkillStatus :=
  match info.state with
  | none => .running
  | some state =>
    if state.endsWith "_COMPLETE" then .completed
    else if state.endsWith "FAILED" then
      .failed (info.error.getD ("cluster operation " ++ state))
    else .running

def rebootProgress (ctx : Context Connection) (h : Handle) : Action SkillStatus := do
  let r ← kept Rebooted.reader h
  let a ← accessOf ctx
  return operationStatus (← Action.send a (.describeClusterOperation r.operation))

def reboot : Disruption where
  descriptor :=
    { name := rebootName
      description := "Reboot a single broker of a provisioned MSK cluster"
      kind := .broker
      reversible := false }
  validate := noParams rebootName
  execute := rebootBroker
  status := rebootProgress
  rollback _ _ := return ()

end GameDay.Disruption
