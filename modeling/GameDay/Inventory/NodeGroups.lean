import GameDay.Cloud.Listing

namespace GameDay.Inventory

open Cloud (ReplicationGroup NodeGroup Findings)

def replicationGroupKey : String := "aws.elasticache.replication-group.id"

def nodeGroupKey : String := "aws.elasticache.node-group.id"

def nodeGroupTarget (g : ReplicationGroup) (n : NodeGroup) : Target :=
  let groupId := g.id.getD ""
  let nodeId := n.id.getD ""
  let base : Target :=
    { id := groupId ++ "/" ++ nodeId
      label := groupId ++ " (" ++ nodeId ++ ")"
      kind := .nodeGroup }
  let described := base.addOption "aws.arn" g.arn
    |>.add replicationGroupKey groupId
    |>.addOption "aws.elasticache.replication-group.status" g.status
    |>.addOption "aws.elasticache.replication-group.description" g.description
    |>.addOption "aws.elasticache.replication-group.cache-node-type" g.nodeType
    |>.addOption "aws.elasticache.replication-group.automatic-failover" g.automaticFailover
    |>.addOption "aws.elasticache.replication-group.multi-az" g.multiAz
    |>.addOption "aws.elasticache.replication-group.cluster-enabled"
      (g.clusterEnabled.map toString)
    |>.add nodeGroupKey nodeId
    |>.addOption "aws.elasticache.node-group.status" n.status
  n.members.foldl (·.addOption "aws.elasticache.node-group.member" ·) described

def nodeGroupTargets (g : ReplicationGroup) : List Target := g.nodeGroups.map (nodeGroupTarget g)

def nodeGroups (limit : Nat) (a : Access) : Findings Target :=
  Cloud.pages (fun token => .send a (.describeReplicationGroups token none)) .unlessStuck
    (fun g => return (nodeGroupTargets g).map a.stamp) limit none

end GameDay.Inventory
