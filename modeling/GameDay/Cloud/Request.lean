import GameDay.Cloud.Record
import GameDay.Uuid

namespace GameDay.Cloud

inductive Request
  | listFunctions (marker : Option String)
  | describeReplicationGroups (marker id : Option String)
  | testFailover (group nodeGroup : String)
  | listClusters (token : Option String)
  | listNodes (cluster : String) (token : Option String)
  | rebootBroker (cluster broker : String)
  | describeClusterOperation (operation : String)
  | listTemplates (token : Option String)
  | getTemplate (id : String)
  | startExperiment (template : String) (clientToken : Uuid)
  | getExperiment (id : String)
  | stopExperiment (id : String)
  | getParameter (name : String)
  | putParameter (name value : String)
  | deleteParameter (name : String)
deriving DecidableEq

namespace Request

abbrev Answer : Request → Type
  | listFunctions _ => Page Function
  | describeReplicationGroups _ _ => Page ReplicationGroup
  | testFailover _ _ => Unit
  | listClusters _ => Page Cluster
  | listNodes _ _ => Page ClusterNode
  | rebootBroker _ _ => Option String
  | describeClusterOperation _ => OperationInfo
  | listTemplates _ => Page TemplateSummary
  | getTemplate _ => Option Template
  | startExperiment _ _ => Option String
  | getExperiment _ => ExperimentState
  | stopExperiment _ => Unit
  | getParameter _ => Option String
  | putParameter _ _ => Unit
  | deleteParameter _ => Unit

def api : Request → String
  | listFunctions _ => "ListFunctions"
  | describeReplicationGroups _ _ => "DescribeReplicationGroups"
  | testFailover _ _ => "TestFailover"
  | listClusters _ => "ListClustersV2"
  | listNodes _ _ => "ListNodes"
  | rebootBroker _ _ => "RebootBroker"
  | describeClusterOperation _ => "DescribeClusterOperation"
  | listTemplates _ => "ListExperimentTemplates"
  | getTemplate _ => "GetExperimentTemplate"
  | startExperiment _ _ => "StartExperiment"
  | getExperiment _ => "GetExperiment"
  | stopExperiment _ => "StopExperiment"
  | getParameter _ => "GetParameter"
  | putParameter _ _ => "PutParameter"
  | deleteParameter _ => "DeleteParameter"

def pathId? : Request → Option String
  | listNodes cluster _ => some cluster
  | rebootBroker cluster _ => some cluster
  | describeClusterOperation operation => some operation
  | getTemplate id => some id
  | getExperiment id => some id
  | stopExperiment id => some id
  | _ => none

/-- A request whose address lacks its identifier cannot be sent. -/
def canBeSent (r : Request) : Bool := r.pathId? ≠ some ""

end Request

structure ServiceError where
  code : Option String := none
  text : String
deriving DecidableEq

def ServiceError.isMissingParameter (e : ServiceError) : Bool := e.code = some "ParameterNotFound"

end GameDay.Cloud
