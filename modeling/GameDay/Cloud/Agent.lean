import GameDay.Agent
import GameDay.Cloud.Settings
import GameDay.Disruption.Catalogue
import GameDay.Inventory.Basic

namespace GameDay.Cloud

structure AgentState (W : Type) where
  scene : Scene W
  registry : Option Registry := none
  status : AgentStatus := .idle

namespace AgentState

variable {W : Type}

def withRegistry (world : W) (registry : Registry) : AgentState W :=
  { scene := { world }, registry := some registry, status := .ready }

def shutDown (s : AgentState W) : AgentState W := { s with registry := none, status := .idle }

def reply {α : Type} (answer : Except Error α) (s : AgentState W) : Reply (AgentState W) α :=
  ⟨answer, .zero, s⟩

end AgentState

def agentName : String := "aws-chaos-agent"

def notInitialized : Error := .connection "Not initialized"

variable {W : Type} (cloud : Cloud W) (settings : Settings)

def prepare (s : AgentState W) : Reply (AgentState W) Unit :=
  if settings.accesses = [] then
    { s with status := .failed "no accesses configured" }.reply
      (.error (.config "No AWS accesses configured"))
  else { s with registry := some settings.registry, status := .ready }.reply (.ok ())

def discover (s : AgentState W) : Option (Reply (AgentState W) (List Target)) :=
  match s.registry with
  | none => some ({ s with status := .discovering }.reply (.error notInitialized))
  | some registry =>
    if registry.isEmpty then
      some ({ s with status := .failed "no accesses loaded" }.reply
        (.error (.discovery "No AWS accesses loaded")))
    else
      let (found, scene) := Inventory.discover cloud settings.poolSize registry.accesses
        settings.discovery.kinds s.scene
      found.map fun targets =>
        { answer := .ok targets
          took := (cloud.clock scene.world).since (cloud.clock s.scene.world)
          world := { s with scene, status := .ready } }

def connect (t : Target) (s : AgentState W) : Reply (AgentState W) Connection :=
  match s.registry with
  | none => s.reply (.error notInitialized)
  | some registry => s.reply ((registry.forTarget t).map fun _ => some registry)

def agentAct {α : Type} (action : Action α) (s : AgentState W) : Reply (AgentState W) α :=
  let r := cloud.act action s.scene
  { answer := r.answer, took := r.took, world := { s with scene := r.world } }

def skill (d : Disruption) : Skill (AgentState W) Connection where
  descriptor := d.descriptor
  validate := d.validate
  execute ctx := cloud.agentAct (d.execute ctx)
  status ctx h := cloud.agentAct (d.status ctx h)
  rollback ctx h := cloud.agentAct (d.rollback ctx h)

def agent : Agent (AgentState W) Connection where
  status := AgentState.status
  prepare := prepare settings
  discover := cloud.discover settings
  skills := Disruption.all.map cloud.skill
  connect t _ := connect t
  wallClock s := cloud.calendar s.scene.world
  sleep d s := { s with scene.world := cloud.sleep d s.scene.world }

end GameDay.Cloud
