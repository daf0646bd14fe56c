import GameDay.Decimal.Shortest
import GameDay.Text.Digits

namespace GameDay.Text

inductive Json
  | boolean (b : Bool)
  | natural (n : Nat)
  | real (x : Binary64)
  | text (s : String)
  | list (items : List Json)
  | record (fields : List (String × Json))

namespace Json

/-- Quotes, backslashes and controls are written as escapes. -/
def escape (c : Char) : String :=
  match c with
  | '"' => "\\\""
  | '\\' => "\\\\"
  | '\n' => "\\n"
  | '\r' => "\\r"
  | '\t' => "\\t"
  | _ =>
    if c.toNat = 8 then "\\b"
    else if c.toNat = 12 then "\\f"
    else if c.toNat < 32 then "\\u" ++ hex 4 c.toNat
    else c.toString

def quoted (s : String) : String := "\"" ++ String.join (s.toList.map escape) ++ "\""

def realText : Binary64 → String
  | .finite negative m e => Decimal.document negative m e
  | _ => "null"

def enclosed (before after inside outside : String) : List String → String
  | [] => before ++ after
  | parts => before ++ inside ++ String.intercalate ("," ++ inside) parts ++ outside ++ after

/-- How a document is laid out: what stands before a part at a depth, and after a name. -/
structure Layout where
  inside : Nat → String
  afterName : String

def compact : Layout := ⟨fun _ => "", ":"⟩

def indented : Layout := ⟨fun depth => "\n" ++ String.ofList (List.replicate (2 * depth) ' '), ": "⟩

mutual

def write (l : Layout) (depth : Nat) : Json → String
  | boolean b => toString b
  | natural n => toString n
  | real x => realText x
  | text s => quoted s
  | list items =>
    enclosed "[" "]" (l.inside (depth + 1)) (l.inside depth) (writeItems l (depth + 1) items)
  | record fields =>
    enclosed "\x7b" "\x7d" (l.inside (depth + 1)) (l.inside depth) (writeFields l (depth + 1) fields)

def writeItems (l : Layout) (depth : Nat) : List Json → List String
  | [] => []
  | item :: items => write l depth item :: writeItems l depth items

def writeFields (l : Layout) (depth : Nat) : List (String × Json) → List String
  | [] => []
  | (name, value) :: fields =>
    (quoted name ++ l.afterName ++ write l depth value) :: writeFields l depth fields

end

end Json

end GameDay.Text
