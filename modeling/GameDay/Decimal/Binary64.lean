import GameDay.Power

/-!
Floating-point numbers with 53 binary digits, as exact values.

A finite number is its sign, a mantissa below 2^53 and a power of two from -1074 to 971. Reading
a decimal gives the nearest number, and of two equally near ones that with the even mantissa.
-/

namespace GameDay

inductive Binary64
  | nan
  | infinite (negative : Bool)
  | finite (negative : Bool) (mantissa : Nat) (exponent : Int)
deriving DecidableEq

namespace Binary64

def leastExponent : Int := -1074

def greatestExponent : Int := 971

def zero : Binary64 := finite false 0 leastExponent

instance : Inhabited Binary64 := ⟨zero⟩

def roundDiv (num den : Nat) : Nat :=
  let q := num / den
  let r := num % den
  if 2 * r < den ∨ (2 * r = den ∧ q % 2 = 0) then q else q + 1

def scale (x : Nat) (k : Int) : Nat × Nat :=
  if 0 ≤ k then (x * 2 ^ k.toNat, 1) else (x, 2 ^ (-k).toNat)

def log2Floor (num den : Nat) : Int :=
  let k := (Nat.log2 num : Int) - Nat.log2 den
  let reached := if 0 ≤ k then den * 2 ^ k.toNat ≤ num else den ≤ num * 2 ^ (-k).toNat
  if reached then k else k - 1

def ofFraction (negative : Bool) (num den : Nat) : Binary64 :=
  if num = 0 then finite negative 0 leastExponent
  else
    let e := max leastExponent (log2Floor num den - 52)
    let m := if 0 ≤ e then roundDiv num (den * 2 ^ e.toNat) else roundDiv (num * 2 ^ (-e).toNat) den
    let (m, e) := if m = 2 ^ 53 then (2 ^ 52, e + 1) else (m, e)
    if greatestExponent < e then infinite negative else finite negative m e

def digitCount (n : Nat) : Nat := (toString n).length

def ofDecimal (negative : Bool) (digits : Nat) (exponent : Int) : Binary64 :=
  if digits = 0 then finite negative 0 leastExponent
  else if 400 < exponent then infinite negative
  else if exponent + digitCount digits < -400 then finite negative 0 leastExponent
  else if 0 ≤ exponent then ofFraction negative (digits * 10 ^ exponent.toNat) 1
  else ofFraction negative digits (10 ^ (-exponent).toNat)

def ofInt (n : Int) : Binary64 := ofFraction (decide (n < 0)) n.natAbs 1

def isFinite : Binary64 → Bool
  | finite .. => true
  | _ => false

def truncate (mantissa : Nat) (exponent : Int) : Nat :=
  let (num, den) := scale mantissa exponent
  num / den

/-- The whole part, moved into the range of 64-bit integers. NaN counts as zero. -/
def toInt64 : Binary64 → Int
  | nan => 0
  | infinite negative => if negative then -2 ^ 63 else 2 ^ 63 - 1
  | finite negative m e =>
    let n := truncate m e
    if negative then max (-(n : Int)) (-2 ^ 63) else min n (2 ^ 63 - 1)

def inUnitInterval : Binary64 → Bool
  | finite negative m e =>
    let (num, den) := scale m e
    if negative then num == 0 else decide (num ≤ den)
  | _ => false

/-- Digits before and after a point, with the power of ten that they are counted in. -/
def mantissa? (text : List Char) : Option (Nat × Int) :=
  let whole := text.takeWhile Char.isDigit
  let rest := text.dropWhile Char.isDigit
  let value (digits : List Char) := digits.foldl (fun n c => 10 * n + (c.toNat - '0'.toNat)) 0
  match rest with
  | [] => if whole = [] then none else some (value whole, 0)
  | c :: fraction =>
    if c = '.' ∧ fraction.all Char.isDigit ∧ (whole ≠ [] ∨ fraction ≠ []) then
      some (value (whole ++ fraction), -(fraction.length : Int))
    else none

def exponent? (text : List Char) : Option Int :=
  let (negative, digits) := match text with
    | '-' :: digits => (true, digits)
    | '+' :: digits => (false, digits)
    | digits => (false, digits)
  if digits ≠ [] ∧ digits.all Char.isDigit then
    let n := digits.foldl (fun n c => 10 * n + (c.toNat - '0'.toNat)) 0
    some (if negative then -(n : Int) else n)
  else none

def read? (text : String) : Option Binary64 :=
  let (negative, rest) := match text.toList with
    | '-' :: rest => (true, rest)
    | '+' :: rest => (false, rest)
    | rest => (false, rest)
  let word := String.ofList (rest.map Char.toLower)
  if word = "inf" ∨ word = "infinity" then some (infinite negative)
  else if word = "nan" then some nan
  else do
    let isMark (c : Char) : Bool := c == 'e' || c == 'E'
    let (digits, k) ← mantissa? (rest.takeWhile (!isMark ·))
    match rest.dropWhile (!isMark ·) with
    | [] => return ofDecimal negative digits k
    | _ :: exponent => return ofDecimal negative digits (k + (← exponent? exponent))

end Binary64

end GameDay
