import GameDay.Decimal.Shortest
import GameDay.Text.Quoted

namespace GameDay.Decode

inductive Path
  | root
  | item (parent : Path) (index : Nat)
  | entry (parent : Path) (key : String)
  | unnamed (parent : Path)

namespace Path

def isRoot : Path → Bool
  | root => true
  | _ => false

/-- The text of a path; that of the root is a point, which a key in the root leaves out. -/
def text : Path → String
  | root => "."
  | item parent index => parent.text ++ "[" ++ toString index ++ "]"
  | entry parent key => if parent.isRoot then key else parent.text ++ "." ++ key
  | unnamed parent => if parent.isRoot then "?" else parent.text ++ ".?"

end Path

inductive Found
  | unit
  | boolean (b : Bool)
  | integer (n : Int)
  | real (x : Binary64)
  | text (s : String)
  | sequence
  | map
  | tagged

def Found.description : Found → String
  | .unit => "unit value"
  | .boolean b => "boolean `" ++ toString b ++ "`"
  | .integer n => "integer `" ++ toString n ++ "`"
  | .real x => "floating point `" ++ Decimal.plainWithPoint x ++ "`"
  | .text s => "string " ++ Text.quoted s
  | .sequence => "sequence"
  | .map => "map"
  | .tagged => "enum"

inductive Cause
  | wrongType (found : Found) (expected : String)
  | wrongValue (found : Found) (expected : String)
  | missing (field : String)
  | duplicate (field : String)
  | unknownField (field : String) (known : List String)
  | unknownVariant (variant : String) (known : List String)
  | repeatedKey
  | tooDeep
  | tooManyAliases
  | numberOutOfRange

def oneOf (names : List String) : String :=
  let quoted := names.map fun name => "`" ++ name ++ "`"
  match quoted with
  | [a] => a
  | [a, b] => a ++ " or " ++ b
  | _ => "one of " ++ String.intercalate ", " quoted

def Cause.message : Cause → String
  | .wrongType found expected => "invalid type: " ++ found.description ++ ", expected " ++ expected
  | .wrongValue found expected => "invalid value: " ++ found.description ++ ", expected " ++ expected
  | .missing field => "missing field `" ++ field ++ "`"
  | .duplicate field => "duplicate field `" ++ field ++ "`"
  | .unknownField field known => "unknown field `" ++ field ++ "`, expected " ++ oneOf known
  | .unknownVariant variant known => "unknown variant `" ++ variant ++ "`, expected " ++ oneOf known
  | .repeatedKey => "duplicate entry"
  | .tooDeep => "recursion limit exceeded"
  | .tooManyAliases => "repetition limit exceeded"
  | .numberOutOfRange => "number out of range"

end GameDay.Decode

namespace GameDay

structure DecodeError where
  path : Decode.Path
  cause : Decode.Cause

namespace DecodeError

def message (e : DecodeError) : String := e.cause.message

/-- The message of an error in a document: with the place, unless that is the whole document. -/
def located (e : DecodeError) : String :=
  match e.path with
  | .root => e.message
  | path => path.text ++ ": " ++ e.message

end DecodeError

end GameDay
