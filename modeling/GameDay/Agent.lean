import GameDay.Skill

namespace GameDay

inductive AgentStatus
  | idle
  | preparing
  | discovering
  | ready
  | executing
  | rollingBack
  | failed (reason : String)
deriving DecidableEq

structure Agent (W S : Type) where
  status : W → AgentStatus
  prepare : W → Reply W Unit
  /-- Looks for targets. An agent may never be done with that. -/
  discover : W → Option (Reply W (List Target))
  skills : List (Skill W S)
  connect : Target → Yaml.Value → W → Reply W S
  wallClock : W → Timestamp
  sleep : Duration → W → W

namespace Agent

variable {W S : Type}

def skill? (agent : Agent W S) (name : String) : Option (Skill W S) :=
  agent.skills.find? (·.descriptor.name = name)

end Agent

end GameDay
