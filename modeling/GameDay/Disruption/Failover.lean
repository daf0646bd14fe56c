import GameDay.Disruption.Basic
import GameDay.Inventory.NodeGroups

namespace GameDay.Disruption

open Cloud (Action Plan)
open Yaml (Value)

structure FailedOver where
  group : String
  nodeGroup : String
deriving DecidableEq

namespace FailedOver

def toValue (f : FailedOver) : Value :=
  .record [("replication_group_id", .text f.group), ("node_group_id", .text f.nodeGroup)]

def reader : Decode.Reader Value FailedOver :=
  Decode.record "FailoverState"
    (mk <$> .required "replication_group_id" Decode.text <*> .required "node_group_id" Decode.text)

end FailedOver

def failoverName : String := "aws.elasticache.failover"

/-- For so many nanoseconds a group may still be called available though its failover has begun. -/
def settleNanos : Int := 30 * 10 ^ 9

def failOver (ctx : Context Connection) : Action Handle := do
  let a ← accessOf ctx
  let group ← needed ctx.target Inventory.replicationGroupKey
  let nodeGroup ← needed ctx.target Inventory.nodeGroupKey
  Action.send a (.testFailover group nodeGroup)
  started failoverName ctx.target (FailedOver.toValue { group, nodeGroup })

def failoverStatus (group nodeGroup : Option String) : SkillStatus :=
  if group = some "available" ∧ (nodeGroup = some "available" ∨ nodeGroup = none) then .completed
  else if group = some "create-failed" then .failed "replication group create-failed"
  else .running

def failoverProgress (ctx : Context Connection) (h : Handle) : Action SkillStatus := do
  let now ← (Plan.effect .clock : Plan _)
  if now.nanos - h.createdAt.nanos < settleNanos then return .running
  let f ← kept FailedOver.reader h
  let a ← accessOf ctx
  let page ← Action.send a (.describeReplicationGroups none (some f.group))
  match page.items with
  | [] => return .failed ("Replication group " ++ f.group ++ " disappeared")
  | g :: _ =>
    let nodeGroup := (g.nodeGroups.find? (·.id = some f.nodeGroup)).bind (·.status)
    return failoverStatus g.status nodeGroup

def failover : Disruption where
  descriptor :=
    { name := failoverName
      description := "Trigger a primary failover of an ElastiCache node group"
      kind := .nodeGroup
      reversible := false }
  validate := noParams failoverName
  execute := failOver
  status := failoverProgress
  rollback _ _ := return ()

end GameDay.Disruption
