import GameDay.Cloud.Environment
import GameDay.Disruption.Failover
import GameDay.Disruption.Injection
import GameDay.Disruption.Reboot
import GameDay.Disruption.TemplateRun

namespace GameDay

open Cloud (Action Scene)

namespace Disruption

def all : List Disruption := [injection, failover, reboot, templateRun]

end Disruption

namespace Cloud

variable {W α : Type} (cloud : Cloud W)

def act (action : Action α) (s : Scene W) : Reply (Scene W) α :=
  let (answer, after) := cloud.run action.run s
  { answer, took := (cloud.clock after.world).since (cloud.clock s.world), world := after }

end Cloud

end GameDay
