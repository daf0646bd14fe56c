import GameDay.Error
import GameDay.Target
import GameDay.Timestamp
import GameDay.Uuid

/-!
Skills: single actions that disturb a target, can be asked how they are doing, and are undone
through the handle that they return.

The world that skills act on has a type of its own. A call gives an answer, takes some time and
leaves another world.
-/

namespace GameDay

structure Reply (W α : Type) where
  answer : Except Error α
  took : Duration
  world : W

structure Descriptor where
  name : String
  description : String
  kind : TargetKind
  reversible : Bool
deriving DecidableEq

structure Handle where
  id : Uuid
  skill : String
  target : String
  createdAt : Timestamp
  undo : Yaml.Value

/-- The handles of an experiment in the order in which its actions were started. -/
abbrev RollbackLog := List Handle

namespace RollbackLog

def push (log : RollbackLog) (h : Handle) : RollbackLog := log ++ [h]

def undoOrder (log : RollbackLog) : List Handle := log.reverse

end RollbackLog

inductive SkillStatus
  | running
  | completed
  | failed (reason : String)
deriving DecidableEq

/-- A connection to a target's surroundings, the target, and the parameters of the skill. -/
structure Context (S : Type) where
  shared : S
  target : Target
  params : Yaml.Value

structure Skill (W S : Type) where
  descriptor : Descriptor
  validate : Yaml.Value → Except Error Unit
  execute : Context S → W → Reply W Handle
  status : Context S → Handle → W → Reply W SkillStatus
  rollback : Context S → Handle → W → Reply W Unit

def Skill.unobserved {W S : Type} : Context S → Handle → W → Reply W SkillStatus :=
  fun _ _ w => ⟨.ok .running, .zero, w⟩

end GameDay
