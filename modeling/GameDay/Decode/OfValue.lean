import GameDay.Decode.Fields

/-!
Reading records from values that stand alone. Nothing is converted, except integers where any
number is expected. Tags do not count, and null is an empty record or list.
-/

namespace GameDay.Decode.OfValue

open Yaml (Value)

def found (v : Value) : Found :=
  match v.untagged with
  | .null => .unit
  | .boolean b => .boolean b
  | .number (.integer n) => .integer n
  | .number (.real x) => .real x
  | .text s => .text s
  | .sequence _ => .sequence
  | .mapping _ => .map
  | .tagged .. => .tagged

def failure (cause : Cause) : DecodeError := ⟨.root, cause⟩

def wrongType {α : Type} (v : Value) (expected : String) : Reading α :=
  throw (failure (.wrongType (found v) expected))

def natural (range : IntegerRange) (v : Value) : Reading Nat :=
  match v.untagged with
  | .number (.integer n) => ((range.member? n).mapError failure : Except DecodeError Nat)
  | _ => wrongType v range.name

/-- A name stands alone, or is the kind of null. -/
def variant (names : List String) (v : Value) : Reading String :=
  let known (name : String) : Reading String :=
    if name ∈ names then pure name else throw (failure (.unknownVariant name names))
  match v with
  | .text s => known s
  | .tagged name content => do
    let name ← known name
    match content with
    | .null => return name
    | .tagged .. => throw (failure (.wrongType .tagged "unit"))
    | _ => wrongType content "unit"
  | _ => throw (failure (.wrongType (found v) "a Value::Tagged enum"))

instance : Source Value where
  path _ := .root
  text expected v := match v.untagged with
    | .text s => pure s
    | _ => wrongType v expected
  natural := natural
  boolean v := match v.untagged with
    | .boolean b => pure b
    | _ => wrongType v "a boolean"
  items v := match v.untagged with
    | .sequence items => pure items
    | .null => pure []
    | _ => wrongType v "a sequence"
  entries expected v := match v.untagged with
    | .mapping entries => pure entries
    | .null => pure []
    | _ => wrongType v expected
  variant := variant
  value v := pure v

def real : Reader Value Binary64 := fun v =>
  match v.untagged with
  | .number (.integer n) => pure (.ofInt n)
  | .number (.real x) => pure x
  | _ => wrongType v "f64"

/-- Null stands for nothing. -/
def option {α : Type} (reader : Reader Value α) : Reader Value (Option α)
  | .null => pure none
  | v => some <$> reader v

end GameDay.Decode.OfValue
