import GameDay.Text.Digits

namespace GameDay.Text

structure CodeSet where
  ranges : Array (Nat × Nat)

namespace CodeSet

def hexNumber (digits : String) : Nat :=
  digits.toList.foldl (fun n c => 16 * n + (hexValue? c).getD 0) 0

def range (text : String) : Nat × Nat :=
  match (text.splitOn "-").map hexNumber with
  | [low, high] => (low, high)
  | [low] => (low, low)
  | _ => (0, 0)

def ofLines (lines : List String) : CodeSet :=
  ⟨(lines.flatMap fun line => (line.splitOn " ").map range).toArray⟩

def contains (s : CodeSet) (c : Char) : Bool :=
  s.ranges.any fun (low, high) => low ≤ c.toNat && c.toNat ≤ high

end CodeSet

end GameDay.Text
