import GameDay.Duration.Basic
import GameDay.Target
import GameDay.Timestamp
import GameDay.Uuid

namespace GameDay

structure TargetSummary where
  kind : TargetKind
  id : String
  label : String
deriving DecidableEq

def Target.summary (t : Target) : TargetSummary := ⟨t.kind, t.id, t.label⟩

structure ExecutionRecord where
  skill : String
  target : String
  success : Bool
  duration : Duration
  error : Option String
deriving DecidableEq

structure RollbackRecord where
  skill : String
  success : Bool
  duration : Duration
  error : Option String
deriving DecidableEq

structure Report where
  id : Uuid
  name : String
  status : String
  startedAt : Timestamp
  completedAt : Timestamp
  total : Duration
  soak : Duration
  targets : List TargetSummary
  executions : List ExecutionRecord
  rollback : List RollbackRecord
deriving DecidableEq

end GameDay
