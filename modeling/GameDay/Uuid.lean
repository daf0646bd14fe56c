import GameDay.Text.Digits

namespace GameDay

structure Uuid where
  value : Nat
deriving DecidableEq

namespace Uuid

def text (id : Uuid) : String :=
  let part (low width : Nat) := Text.hex width (id.value / 16 ^ low)
  String.intercalate "-" [part 24 8, part 20 4, part 16 4, part 12 4, part 0 12]

def read? (text : String) : Option Uuid := do
  let digits ← (text.toList.filter (· ≠ '-')).mapM Text.hexValue?
  if digits.length = 32 then return ⟨digits.foldl (fun n d => 16 * n + d) 0⟩ else none

end Uuid

end GameDay
