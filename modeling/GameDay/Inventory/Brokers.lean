import GameDay.Cloud.Listing
import GameDay.Text.Lowercase

namespace GameDay.Inventory

open Cloud (Cluster ClusterNode Fault Findings Gathered Plan)

def clusterKey : String := "aws.msk.cluster.arn"

def brokerKey : String := "aws.msk.cluster.broker.id"

def provisioned : String := "PROVISIONED"

def brokerNumber (x : Binary64) : String := toString x.toInt64

def addLabels (stem : String) (tags : Cloud.Tags) (t : Target) : Target :=
  tags.entries.foldl (fun t (key, value) => t.add (stem ++ Text.lowercase key) value) t

def brokerTarget? (c : Cluster) (n : ClusterNode) : Option Target := do
  let broker ← n.broker
  let number := brokerNumber (← broker.id)
  let arn := c.arn.getD ""
  let name := c.name.getD ""
  let base : Target :=
    { id := arn ++ "/broker-" ++ number
      label := name ++ " broker " ++ number
      kind := .broker }
  let described := base.add clusterKey arn
    |>.add "aws.msk.cluster.name" name
    |>.addOption "aws.msk.cluster.state" c.state
    |>.add brokerKey number
    |>.addOption "aws.msk.cluster.broker.arn" n.arn
    |>.addOption "aws.msk.cluster.broker.instance-type" n.instanceType
    |>.addOption "aws.msk.cluster.broker.client-subnet" broker.clientSubnet
    |>.addOption "aws.msk.cluster.broker.vpc-ip" broker.vpcAddress
  return addLabels "aws.msk.cluster.label." c.tags
    (broker.endpoints.foldl (·.add "aws.msk.cluster.broker.endpoint" ·) described)

def clusterNodes (limit : Nat) (a : Access) (arn : String) : Findings ClusterNode :=
  Cloud.pages (fun token => .send a (.listNodes arn token)) .always (fun n => return [n]) limit none

/-- The brokers of a cluster. One whose nodes cannot all be listed has none, and nothing is known of one whose
nodes are listed for ever. -/
def clusterBrokers (limit : Nat) (a : Access) (c : Cluster) : Plan (List (Option Target)) :=
  match c.arn with
  | some arn =>
    if c.type = some provisioned then do
      match ← clusterNodes limit a arn with
      | .ok nodes => return (nodes.filterMap (brokerTarget? c)).map fun t => some (a.stamp t)
      | .error (.refused _) => return []
      | .error .endless => return [none]
    else return []
  | none => return []

def settled {α : Type} (g : Gathered (Option α)) : Except Fault (List α) :=
  if g.found.all Option.isSome then { g with found := g.found.filterMap id : Gathered α }.whole
  else .error .endless

def brokers (limit : Nat) (a : Access) : Findings Target :=
  Plan.bind
    (Cloud.gather (fun token => .send a (.listClusters token)) .always (clusterBrokers limit a) limit none)
    fun g => .done (settled g)

end GameDay.Inventory
