import GameDay.Decode.Fields
import GameDay.Yaml.Document
import GameDay.Yaml.Scalar.Resolve

/-!
Reading records from the nodes of a document.

Where a text is expected any scalar is one, as it is written. Scalars are resolved only in values
that are kept as they are, and where a number is expected. Collections may be nested in each
other up to a limit, and aliases may be followed a limited number of times.
-/

namespace GameDay.Decode

open Yaml (Document Node Tag Value)

structure Place where
  document : Document
  node : Node
  path : Path := .root
  depth : Nat := 128

namespace Place

def ownName? (tag : Option Tag) : Option String := tag.bind Tag.own?

def followed (d : Document) : Node → Node
  | .alias id => (d.target? id).getD .void
  | n => n

def scalarValue (tag : Option Tag) (text : String) (style : Yaml.Style) : Except Cause Value :=
  let wrong (expected : String) : Except Cause Value := .error (.wrongValue (.text text) expected)
  match tag with
  | none | some (.own _) =>
    if style = .plain then
      match Yaml.Resolve.value? text with
      | some v => .ok v
      | none => .error .numberOutOfRange
    else .ok (.text text)
  | some .boolean => match Yaml.Resolve.boolean? text with
    | some b => .ok (.boolean b)
    | none => wrong "a boolean"
  | some .integer => match Yaml.Resolve.integer? text with
    | some n =>
      if Yaml.Resolve.isRepresentable n then .ok (.number (.integer n)) else wrong "an integer"
    | none => wrong "an integer"
  | some .real => match Yaml.Resolve.real? text with
    | some x => .ok (.number (.real x))
    | none => wrong "a float"
  | some .null => if Yaml.Resolve.isNull text then .ok .null else wrong "null"
  | some .foreign => .ok (.text text)

def found : Node → Found
  | .sequence .. => .sequence
  | .mapping .. => .map
  | .scalar _ tag text style =>
    match scalarValue tag text style with
    | .ok .null => .unit
    | .ok (.boolean b) => .boolean b
    | .ok (.number (.integer n)) => .integer n
    | .ok (.number (.real x)) => .real x
    | _ => .text text
  | _ => .unit

def aliasLimit (d : Document) : Nat := 100 * d.root.size

def follow (d : Document) (path : Path) (n : Node) : Reading Node := do
  if let .alias _ := n then
    let aliases ← get
    if aliasLimit d ≤ aliases then throw ⟨path, .tooManyAliases⟩
    set (aliases + 1)
  return followed d n

def addEntry (entries : List (Value × Value)) (k v : Value) :
    Except Cause (List (Value × Value)) :=
  if entries.any fun e => e.1.same k then .error .repeatedKey else .ok (entries ++ [(k, v)])

def ofKind (tag : Option Tag) (v : Value) : Value :=
  match ownName? tag with
  | some name => .tagged (Yaml.kindName name) v
  | none => v

def nodeValue (d : Document) (path : Path) : Nat → Node → Reading Value
  | depth, n => do
    let located {α : Type} (result : Except Cause α) : Except DecodeError α :=
      result.mapError (⟨path, ·⟩)
    match ← follow d path n, depth with
    | .scalar _ tag text style, _ => return ofKind tag (← located (scalarValue tag text style))
    | .sequence _ tag items, depth + 1 => do
      return ofKind tag (.sequence (← items.mapM (nodeValue d path depth)))
    | .mapping _ tag entries, depth + 1 => do
      let pairs ← entries.mapM fun (k, v) => do
        return (← nodeValue d path depth k, ← nodeValue d path depth v)
      return ofKind tag (.mapping (← located (pairs.foldlM (fun es e => addEntry es e.1 e.2) [])))
    | .sequence .., 0 | .mapping .., 0 => throw ⟨path, .tooDeep⟩
    | _, _ => return .null

def value (p : Place) : Reading Value := nodeValue p.document p.path p.depth p.node

def failure {α : Type} (p : Place) (cause : Cause) : Reading α := throw ⟨p.path, cause⟩

def wrongType {α : Type} (p : Place) (expected : String) : Reading α :=
  p.failure (.wrongType (found (followed p.document p.node)) expected)

def content (p : Place) : Reading Node := follow p.document p.path p.node

def text (expected : String) (p : Place) : Reading String := do
  match ← p.content with
  | .scalar _ _ text _ => return text
  | _ => p.wrongType expected

def isBare (kind : Tag) (tag : Option Tag) (style : Yaml.Style) : Bool :=
  style = .plain || (style = .literal && tag = some kind)

def natural (range : IntegerRange) (p : Place) : Reading Nat := do
  match ← p.content with
  | .scalar _ tag text style =>
    if isBare .integer tag style then
      match (Yaml.Resolve.unsigned? text).filter (· < 2 ^ 64) with
      | some n => match range.member? n with
        | .ok n => return n
        | .error cause => p.failure cause
      | none => p.wrongType range.name
    else p.wrongType range.name
  | _ => p.wrongType range.name

def boolean (p : Place) : Reading Bool := do
  match ← p.content with
  | .scalar _ tag text style =>
    match (Yaml.Resolve.boolean? text).filter fun _ => isBare .boolean tag style with
    | some b => return b
    | none => p.wrongType "a boolean"
  | _ => p.wrongType "a boolean"

/-- A scalar that is not written is an empty collection. -/
def isEmptyCollection : Node → Bool
  | .void => true
  | .scalar _ _ "" .plain => true
  | _ => false

def items (p : Place) : Reading (List Place) := do
  match ← p.content, p.depth with
  | .sequence _ _ items, depth + 1 =>
    return items.zipIdx.map fun (n, i) => { p with node := n, path := .item p.path i, depth }
  | .sequence .., 0 => p.failure .tooDeep
  | n, _ => if isEmptyCollection n then return [] else p.wrongType "a sequence"

/-- The path to an entry; a key that is no scalar has no name. -/
def entryPath (parent : Path) : Node → Path
  | .scalar _ _ key _ => .entry parent key
  | _ => .unnamed parent

def entries (expected : String) (p : Place) : Reading (List (Place × Place)) := do
  match ← p.content, p.depth with
  | .mapping _ _ entries, depth + 1 =>
    return entries.map fun (k, v) =>
      ({ p with node := k, depth }, { p with node := v, path := entryPath p.path k, depth })
  | .mapping .., 0 => p.failure .tooDeep
  | n, _ => if isEmptyCollection n then return [] else p.wrongType expected

def outer : Path → Path
  | .item parent _ | .entry parent _ | .unnamed parent => parent
  | .root => .root

/-- The path to an unknown name that a tag gives: a fault of the entries around, unless the tag is
elsewhere and was reached through an alias. -/
def tagPath (p : Place) : Path :=
  match p.node with
  | .alias _ => p.path
  | _ => outer p.path

/-- A name is a scalar, or a kind of the document's own on null. -/
def variant (names : List String) (p : Place) : Reading String := do
  let known (path : Path) (name : String) : Reading String :=
    if name ∈ names then pure name else throw ⟨path, .unknownVariant name names⟩
  let ofTag (tag : Option Tag) (expected : Found) (content : Reading Unit) : Reading String :=
    match ownName? tag with
    | some name => do
      let name ← known p.tagPath name
      content
      return name
    | none => p.failure (.wrongType expected "a YAML tag starting with '!'")
  match ← p.content with
  | .scalar _ tag text style =>
    if (ownName? tag).isSome then
      ofTag tag .unit
        (if style = .plain ∧ (text = "" ∨ Yaml.Resolve.isNull text) then return ()
          else p.failure (.wrongValue (.text text) "null"))
    else known p.path text
  | .sequence _ tag _ => ofTag tag .sequence (p.failure (.wrongType .sequence "unit"))
  | .mapping _ tag _ => ofTag tag .map (p.failure (.wrongType .map "unit"))
  | _ => p.wrongType "a variant"

instance : Source Place where
  path := Place.path
  text := text
  natural := natural
  boolean := boolean
  items := items
  entries := entries
  variant := variant
  value := value

end Place

def ofDocument {α : Type} (reader : Reader Place α) (d : Document) :
    Except (Option DecodeError) α :=
  let root : Place := { document := d, node := d.root }
  match reader.read root with
  | .ok a => .ok a
  | .error e => match Reader.read Place.value root with
    | .ok _ => .error (some e)
    | .error _ => .error none

def ofText {α : Type} (reader : Reader Place α) (text : String) :
    Except (Option DecodeError) α :=
  match Document.read? text with
  | some d => ofDocument reader d
  | none => .error none

end GameDay.Decode
