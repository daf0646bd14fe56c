import GameDay.Text.Digits
import GameDay.Yaml.Value

namespace GameDay.Yaml.Resolve

def isNull (s : String) : Bool := ["null", "Null", "NULL", "~"].contains s

def boolean? (s : String) : Option Bool :=
  if ["true", "True", "TRUE"].contains s then some true
  else if ["false", "False", "FALSE"].contains s then some false
  else none

/-- The value of digits to a base; there has to be at least one. -/
def digits? (base : Nat) (digits : List Char) : Option Nat := do
  let values ← digits.mapM fun c => (Text.hexValue? c).filter (· < base)
  if values.isEmpty then none else return values.foldl (fun n d => base * n + d) 0

/-- Several digits of which the first is zero are no number. -/
def isZeroFilled : List Char → Bool
  | '0' :: d :: ds => (d :: ds).all Char.isDigit
  | _ => false

def magnitude? : List Char → Option Nat
  | '0' :: 'x' :: ds => digits? 16 ds
  | '0' :: 'o' :: ds => digits? 8 ds
  | '0' :: 'b' :: ds => digits? 2 ds
  | ds => if isZeroFilled ds then none else digits? 10 ds

def unsigned? (s : String) : Option Nat :=
  match s.toList with
  | '+' :: ds => magnitude? ds
  | ds => magnitude? ds

def integer? (s : String) : Option Int :=
  match s.toList with
  | '-' :: ds => (magnitude? ds).map fun n => -(n : Int)
  | _ => (unsigned? s).map Int.ofNat

def isRepresentable (n : Int) : Bool := -2 ^ 63 ≤ n && n < 2 ^ 64

def isIntegerSized (n : Int) : Bool := -2 ^ 127 ≤ n && n < 2 ^ 128

def real? (s : String) : Option Binary64 :=
  let (positive, text) := match s.toList with
    | '+' :: rest => (true, String.ofList rest)
    | _ => (false, s)
  let signed := match text.toList with
    | '+' :: _ | '-' :: _ => true
    | _ => false
  if positive && signed then none
  else if [".inf", ".Inf", ".INF"].contains text then some (.infinite false)
  else if ["-.inf", "-.Inf", "-.INF"].contains s then some (.infinite true)
  else if [".nan", ".NaN", ".NAN"].contains s then some .nan
  else (Binary64.read? text).filter (·.isFinite)

def isZeroFilledText (s : String) : Bool :=
  match s.toList with
  | '-' :: ds | '+' :: ds => isZeroFilled ds
  | ds => isZeroFilled ds

def value? (s : String) : Option Value :=
  if s = "" ∨ isNull s then some .null
  else
    match boolean? s with
    | some b => some (.boolean b)
    | none =>
      match (integer? s).filter isIntegerSized with
      | some n => if isRepresentable n then some (.number (.integer n)) else none
      | none =>
        if isZeroFilledText s then some (.text s)
        else
          match real? s with
          | some x => some (.number (.real x))
          | none => some (.text s)

end GameDay.Yaml.Resolve
