import GameDay.Cloud.Plan
import GameDay.Decode.OfValue
import GameDay.Skill

namespace GameDay

open Cloud (Action)
open Yaml (Value)

abbrev Connection : Type := Option Registry

structure Disruption where
  descriptor : Descriptor
  validate : Value → Except Error Unit
  execute : Context Connection → Action Handle
  status : Context Connection → Handle → Action SkillStatus
  rollback : Context Connection → Handle → Action Unit

namespace Disruption

def accessOf (ctx : Context Connection) : Except Error Access :=
  match ctx.shared with
  | some registry => registry.forTarget ctx.target
  | none => .error (.connection "Expected AccessRegistry")

def needed (t : Target) (key : String) : Except Error String :=
  match t.attribute? key with
  | some value => .ok value
  | none => .error (.config ("Target " ++ t.id ++ " has no attribute " ++ key))

/-- Skills without parameters accept none or an empty mapping. -/
def noParams (skill : String) : Value → Except Error Unit
  | .null => .ok ()
  | .mapping [] => .ok ()
  | _ => .error (.config (skill ++ " takes no parameters"))

def started (skill : String) (t : Target) (undo : Value) : Action Handle := do
  let id ← (Cloud.Plan.effect .freshId : Cloud.Plan _)
  let createdAt ← (Cloud.Plan.effect .clock : Cloud.Plan _)
  return { id, skill, target := t.id, createdAt, undo }

def kept {α : Type} (reader : Decode.Reader Value α) (h : Handle) : Except Error α :=
  (reader.read h.undo).mapError fun e => .other ("Parse undo: " ++ e.message)

end Disruption

end GameDay
