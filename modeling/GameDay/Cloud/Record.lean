import GameDay.Fis.TemplateActions
import GameDay.Timestamp

namespace GameDay.Cloud

structure Page (α : Type) where
  items : List α := []
  next : Option String := none

structure Function where
  name : Option String := none
  arn : Option String := none
  runtime : Option String := none
  memorySize : Option Int := none
  timeout : Option Int := none
  codeSize : Int := 0
  description : Option String := none
  lastModified : Option String := none
  packageType : Option String := none
  architectures : List String := []
  role : Option String := none
  version : Option String := none
  environment : Dictionary String := .empty

structure NodeGroup where
  id : Option String := none
  status : Option String := none
  members : List (Option String) := []

structure ReplicationGroup where
  id : Option String := none
  arn : Option String := none
  status : Option String := none
  description : Option String := none
  nodeType : Option String := none
  automaticFailover : Option String := none
  multiAz : Option String := none
  clusterEnabled : Option Bool := none
  nodeGroups : List NodeGroup := []

/-- Names with their values, in the order in which they happen to be gone through. -/
structure Tags where
  entries : List (String × String)
  distinct : (entries.map Prod.fst).Nodup

namespace Tags

def get? (tags : Tags) (name : String) : Option String := KeyOrder.lookup tags.entries name

def inOrder (tags : Dictionary String) : Tags :=
  ⟨tags.entries, tags.sorted.nodup_keys⟩

def empty : Tags := ⟨[], .nil⟩

end Tags

structure Cluster where
  arn : Option String := none
  name : Option String := none
  type : Option String := none
  state : Option String := none
  tags : Tags := .empty

/-- What a cluster's node tells as a broker. Broker numbers come as floating-point numbers. -/
structure BrokerInfo where
  id : Option Binary64 := none
  clientSubnet : Option String := none
  vpcAddress : Option String := none
  endpoints : List String := []

structure ClusterNode where
  arn : Option String := none
  instanceType : Option String := none
  broker : Option BrokerInfo := none

structure OperationInfo where
  state : Option String := none
  error : Option String := none

structure TemplateSummary where
  id : Option String := none
  description : Option String := none
  lastUpdate : Option Timestamp := none
  tags : Tags := .empty

structure TemplateAction where
  parameters : Dictionary String := .empty
  startAfter : List String := []

structure Template where
  actions : Dictionary TemplateAction := .empty

/-- The parameter that declares how long an action lasts. -/
def Template.durationParameter : String := "duration"

def Template.toActions (t : Template) : Fis.TemplateActions :=
  t.actions.mapValues fun a =>
    .ofDeclared (a.parameters.get? durationParameter) a.startAfter

structure ExperimentState where
  status : Option String := none
  reason : Option String := none

end GameDay.Cloud
