import GameDay.Duration.Basic
import GameDay.Text.Digits

/-!
The short form of durations in reports: milliseconds below a second, tenths of a second below a
minute, then minutes and seconds with any milliseconds. What does not fit the form is cut off.
-/

namespace GameDay.Duration

def brief (d : Duration) : String :=
  if 60 ≤ d.secs then
    let minutes := toString (d.secs / 60) ++ "m " ++ toString (d.secs % 60)
    if 0 < d.subsecMillis then minutes ++ "." ++ Text.padded 3 d.subsecMillis ++ "s"
    else minutes ++ "s"
  else if d.millis < 1000 then toString d.millis ++ "ms"
  else toString d.secs ++ "." ++ toString (d.subsecMillis / 100) ++ "s"

end GameDay.Duration
