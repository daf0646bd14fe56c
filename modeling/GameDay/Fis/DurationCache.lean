import GameDay.Fis.Estimate
import GameDay.Timestamp

namespace GameDay.Fis

structure Estimate where
  createdAt : Timestamp
  duration : Duration
deriving DecidableEq

/-- The estimated duration, unless the template was updated after the estimate was put in. -/
def Estimate.fresh? (e : Estimate) (lastUpdate : Timestamp) : Option Duration :=
  if lastUpdate ≤ e.createdAt then some e.duration else none

abbrev DurationCache := Dictionary Estimate

namespace DurationCache

def record (cache : DurationCache) (now : Timestamp) (id : String) (duration : Duration) :
    DurationCache :=
  cache.insert id { createdAt := now, duration }

end DurationCache

end GameDay.Fis
