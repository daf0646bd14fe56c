import GameDay.Decimal.Shortest
import GameDay.Yaml.Tag
import GameDay.Yaml.Token.Basic
import GameDay.Yaml.Value

namespace GameDay.Yaml

/-- A node has an anchor and a tag, if they are given; anchors and aliases are numbered. Void is
the content of an empty document. -/
inductive Node
  | void
  | alias (id : Nat)
  | scalar (anchor : Option Nat) (tag : Option Tag) (text : String) (style : Style)
  | sequence (anchor : Option Nat) (tag : Option Tag) (items : List Node)
  | mapping (anchor : Option Nat) (tag : Option Tag) (entries : List (Node × Node))

instance : Inhabited Node := ⟨.void⟩

namespace Node

def empty : Node := scalar none none "" .plain

def withTag? (octets : List UInt8) : Node → Option Node
  | scalar a none text style => some (scalar a (Tag.ofOctets octets) text style)
  | sequence a none items => some (sequence a (Tag.ofOctets octets) items)
  | mapping a none entries => some (mapping a (Tag.ofOctets octets) entries)
  | _ => none

mutual

def anchored : Node → List (Nat × Node)
  | scalar a t s y => (a.map fun id => (id, scalar a t s y)).toList
  | sequence a t items => (a.map fun id => (id, sequence a t items)).toList ++ anchoredItems items
  | mapping a t entries =>
    (a.map fun id => (id, mapping a t entries)).toList ++ anchoredEntries entries
  | _ => []

def anchoredItems : List Node → List (Nat × Node)
  | [] => []
  | n :: ns => anchored n ++ anchoredItems ns

def anchoredEntries : List (Node × Node) → List (Nat × Node)
  | [] => []
  | (k, v) :: es => anchored k ++ anchored v ++ anchoredEntries es

end

mutual

def size : Node → Nat
  | sequence _ _ items => sizeOfItems items + 2
  | mapping _ _ entries => sizeOfEntries entries + 2
  | _ => 1

def sizeOfItems : List Node → Nat
  | [] => 0
  | n :: ns => size n + sizeOfItems ns

def sizeOfEntries : List (Node × Node) → Nat
  | [] => 0
  | (k, v) :: es => size k + size v + sizeOfEntries es

end

def numberText : Number → String
  | .integer n => toString n
  | .real .nan => ".nan"
  | .real (.infinite negative) => if negative then "-.inf" else ".inf"
  | .real (.finite negative m e) => Decimal.document negative m e

/-- The octets that the name of a kind is written as, with a mark in front if there is none. -/
def kindOctets (name : String) : List UInt8 :=
  Tag.octets (if name.startsWith "!" then name else "!" ++ name)

/-- The characters that are written as they are in a tag, but end it when it is read. -/
def endsTag (octet : UInt8) : Bool := [',', '[', ']'].any fun c => c.toNat = octet.toNat

mutual

/-- The node that a value is written as, if it can be read. Texts are in quotes, so that they stay
texts. -/
def ofValue? : Value → Option Node
  | .null => some (scalar none none "null" .plain)
  | .boolean b => some (scalar none none (if b then "true" else "false") .plain)
  | .number n => some (scalar none none (numberText n) .plain)
  | .text s => some (scalar none none s .quoted)
  | .sequence items => (ofItems? items).map (sequence none none)
  | .mapping entries => (ofEntries? entries).map (mapping none none)
  | .tagged name v => do
    let octets := kindOctets name
    if octets.any endsTag then none
    withTag? octets (← ofValue? v)

def ofItems? : List Value → Option (List Node)
  | [] => some []
  | v :: vs => return (← ofValue? v) :: (← ofItems? vs)

def ofEntries? : List (Value × Value) → Option (List (Node × Node))
  | [] => some []
  | (k, v) :: es => return (← ofValue? k, ← ofValue? v) :: (← ofEntries? es)

end

end Node

end GameDay.Yaml
