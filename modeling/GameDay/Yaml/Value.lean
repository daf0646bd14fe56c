import GameDay.Decimal.Binary64

namespace GameDay.Yaml

inductive Number
  | integer (n : Int)
  | real (x : Binary64)
deriving DecidableEq

inductive Value
  | null
  | boolean (b : Bool)
  | number (n : Number)
  | text (s : String)
  | sequence (items : List Value)
  | mapping (entries : List (Value × Value))
  | tagged (name : String) (value : Value)

instance : Inhabited Value := ⟨.null⟩

/-- The name of a kind without the mark in front, unless it is nothing but the mark. -/
def kindName (tag : String) : String :=
  match tag.toList with
  | '!' :: c :: cs => String.ofList (c :: cs)
  | _ => tag

/-- Equality of numbers: there is one zero and one NaN. -/
def Number.same : Number → Number → Bool
  | .real (.finite _ 0 _), .real (.finite _ 0 _) => true
  | a, b => a == b

namespace Value

def untagged : Value → Value
  | tagged _ v => v.untagged
  | v => v

mutual

def same : Value → Value → Bool
  | null, null => true
  | boolean a, boolean b => a == b
  | number a, number b => a.same b
  | text a, text b => a == b
  | sequence xs, sequence ys => sameItems xs ys
  | mapping xs, mapping ys => xs.length == ys.length && sameEntries xs ys
  | tagged t x, tagged u y => t == u && same x y
  | _, _ => false

def sameItems : List Value → List Value → Bool
  | [], [] => true
  | x :: xs, y :: ys => same x y && sameItems xs ys
  | _, _ => false

def sameEntries : List (Value × Value) → List (Value × Value) → Bool
  | [], _ => true
  | (k, v) :: xs, ys => ys.any (fun (a, b) => same k a && same v b) && sameEntries xs ys

end

def record (entries : List (String × Value)) : Value :=
  mapping (entries.map fun (k, v) => (text k, v))

end Value

end GameDay.Yaml
