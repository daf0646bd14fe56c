namespace GameDay.Yaml

/-- A kind of the document's own has a name. Of the kinds that a standard lists only four change
what a scalar stands for. -/
inductive Tag
  | own (name : String)
  | null
  | boolean
  | integer
  | real
  | foreign
deriving DecidableEq

namespace Tag

def octets (text : String) : List UInt8 := text.toUTF8.toList.takeWhile (· ≠ 0)

def ofFullName : String → Tag
  | "tag:yaml.org,2002:null" => null
  | "tag:yaml.org,2002:bool" => boolean
  | "tag:yaml.org,2002:int" => integer
  | "tag:yaml.org,2002:float" => real
  | _ => foreign

/-- The tag that some octets are. After an exclamation mark comes the name of an own kind, and the
mark alone is a name too; an own kind does not count if its name is no text. -/
def ofOctets (octets : List UInt8) : Option Tag :=
  match octets with
  | 0x21 :: name =>
    (String.fromUTF8? ⟨(if name = [] then octets else name).toArray⟩).map own
  | _ => some (((String.fromUTF8? ⟨octets.toArray⟩).map ofFullName).getD foreign)

def own? : Tag → Option String
  | own name => some name
  | _ => none

end Tag

end GameDay.Yaml
