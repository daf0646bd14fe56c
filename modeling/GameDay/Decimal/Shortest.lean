import GameDay.Decimal.Binary64

/-!
The shortest decimal that reads back as a given floating-point number, and its written forms.

Decimals with few digits lie on coarse grids. Grids are tried from coarse to fine, and on each
only the two neighbours of the number can be nearest; the first grid with a neighbour that reads
back wins, and on it the nearer neighbour. Written forms differ in which of two equally near
neighbours they take.
-/

namespace GameDay

structure Decimal where
  digits : Nat
  exponent : Int
deriving DecidableEq

namespace Decimal

/-- The decimals that read back as one number: those between `low` and `high`, in units of
`2^power`. The ends belong to it when the mantissa is even. -/
structure Interval where
  low : Nat
  value : Nat
  high : Nat
  power : Int
  closed : Bool

/-- In units of a quarter of the last place. Below a power of two the numbers lie closer. -/
def Interval.ofFinite (mantissa : Nat) (exponent : Int) : Interval :=
  let narrow := mantissa == 2 ^ 52 && exponent != Binary64.leastExponent
  { low := 4 * mantissa - if narrow then 1 else 2
    value := 4 * mantissa
    high := 4 * mantissa + 2
    power := exponent - 2
    closed := mantissa % 2 == 0 }

/-- A factor for numbers in units of `2^power` and one for those in units of `10^grid`, such
that the products have the same unit. -/
def factors (power grid : Int) : Nat × Nat :=
  (2 ^ power.toNat * 10 ^ (-grid).toNat, 10 ^ grid.toNat * 2 ^ (-power).toNat)

inductive Tie
  | greater
  | even
deriving DecidableEq

def Interval.onGrid? (i : Interval) (tie : Tie) (grid : Int) : Option Decimal :=
  let (binary, decimal) := factors i.power grid
  let value := i.value * binary
  let inside (n : Nat) : Bool :=
    if i.closed then i.low * binary ≤ n * decimal && n * decimal ≤ i.high * binary
    else i.low * binary < n * decimal && n * decimal < i.high * binary
  let below := value / decimal
  let above := below + 1
  let belowIn := 0 < below && inside below
  let aboveIn := inside above
  let excess := 2 * (value - below * decimal)
  let nearer := excess < decimal || (excess == decimal && tie = .even && below % 2 == 0)
  if belowIn && (!aboveIn || nearer) then some ⟨below, grid⟩
  else if aboveIn then some ⟨above, grid⟩
  else none

def greatestGrid (i : Interval) : Int :=
  let (num, den) := Binary64.scale i.value i.power
  (Binary64.digitCount num : Int) - Binary64.digitCount den + 1

/-- The shortest decimal of a positive number. Seventeen digits are always enough. -/
def shortest (tie : Tie) (mantissa : Nat) (exponent : Int) : Decimal :=
  let i := Interval.ofFinite mantissa exponent
  let top := greatestGrid i
  ((List.range 20).findSome? fun (k : Nat) => i.onGrid? tie (top - k)).getD ⟨mantissa, exponent⟩

def positional (d : Decimal) : String :=
  let digits := (toString d.digits).toList
  if 0 ≤ d.exponent then String.ofList (digits ++ List.replicate d.exponent.toNat '0')
  else
    let places := (-d.exponent).toNat
    let padded := List.replicate (places + 1 - digits.length) '0' ++ digits
    let whole := padded.take (padded.length - places)
    String.ofList (whole ++ '.' :: padded.drop (padded.length - places))

def scientific (d : Decimal) : String :=
  let digits := (toString d.digits).toList
  let exponent := d.exponent + (digits.length - 1 : Nat)
  let fraction := digits.drop 1
  String.ofList (digits.take 1 ++ if fraction = [] then [] else '.' :: fraction) ++ "e" ++
    toString exponent

def signText (negative : Bool) : String := if negative then "-" else ""

def plain : Binary64 → String
  | .nan => "NaN"
  | .infinite negative => signText negative ++ "inf"
  | .finite negative m e =>
    signText negative ++ if m = 0 then "0" else (shortest .greater m e).positional

/-- In messages about types a number shows that it is no integer. -/
def plainWithPoint (x : Binary64) : String :=
  let text := plain x
  if x.isFinite && !text.contains '.' then text ++ ".0" else text

/-- In documents numbers between 10^-5 and 10^16 are positional, with at least one digit after
the point, and the others have an exponent. Ties go to the even digit. -/
def document (negative : Bool) (mantissa : Nat) (exponent : Int) : String :=
  signText negative ++
    if mantissa = 0 then "0.0"
    else
      let d := shortest .even mantissa exponent
      let point := d.exponent + Binary64.digitCount d.digits
      if 0 ≤ d.exponent ∧ point ≤ 16 then d.positional ++ ".0"
      else if d.exponent < 0 ∧ -5 < point ∧ point ≤ 16 then d.positional
      else d.scientific

end Decimal

end GameDay
