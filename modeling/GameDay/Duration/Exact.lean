import GameDay.Duration.Basic
import GameDay.Text.Digits

namespace GameDay.Duration

/-- A decimal fraction of `places` digits without its trailing zeros, empty when it is zero. -/
def fractionText (n places : Nat) : String :=
  let kept := ((Text.padded places n).toList.reverse.dropWhile (· = '0')).reverse
  if kept = [] then "" else "." ++ String.ofList kept

def exact (d : Duration) : String :=
  let n := d.subsecNanos
  if 0 < d.secs then toString d.secs ++ fractionText n 9 ++ "s"
  else if 10 ^ 6 ≤ n then toString (n / 10 ^ 6) ++ fractionText (n % 10 ^ 6) 6 ++ "ms"
  else if 10 ^ 3 ≤ n then toString (n / 10 ^ 3) ++ fractionText (n % 10 ^ 3) 3 ++ "µs"
  else toString n ++ "ns"

end GameDay.Duration
