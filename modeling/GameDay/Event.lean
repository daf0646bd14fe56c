import GameDay.Duration.Basic
import GameDay.Timestamp
import GameDay.Uuid

namespace GameDay

inductive Occurrence
  | started (time : Timestamp)
  | targetsDiscovered (count : Nat)
  | skillExecuted (skill target : String) (success : Bool)
  | waitBegun (duration : Duration)
  | skillFinished (skill target : String) (failure : Option String)
  | rollbackStarted
  | rollbackStepCompleted (skill : String) (success : Bool)
  | completed (time : Timestamp)
  | failed (error : String)
deriving DecidableEq

structure Event where
  experiment : Uuid
  what : Occurrence
deriving DecidableEq

end GameDay
