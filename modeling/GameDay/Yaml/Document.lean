import GameDay.Yaml.Node
import GameDay.Yaml.Token.Lexer

namespace GameDay.Yaml

structure Document where
  root : Node
  anchors : List (Nat × Node)

namespace Document

def ofRoot (root : Node) : Document := ⟨root, root.anchored.reverse⟩

/-- The node that an alias stands for; of several with one number the last one to begin. -/
def target? (d : Document) (id : Nat) : Option Node := d.anchors.lookup id

structure State where
  tokens : List Token
  anchors : List (String × Nat) := []
  handles : List (String × List UInt8) := []

abbrev Parse := StateT State Option

def peek : Parse Token := do
  match (← get).tokens with
  | t :: _ => return t
  | [] => none

def skip : Parse Unit := modify fun s => { s with tokens := s.tokens.drop 1 }

def next : Parse Token := do
  let t ← peek
  skip
  return t

def refuse {α : Type} : Parse α := fun _ => none

/-- Numbers an anchor by how many names there have been; a name that comes again gets a new
number. -/
def declare (name : String) : Parse Nat := do
  let s ← get
  let id := s.anchors.length
  set { s with anchors := (name, id) :: s.anchors.filter (·.1 ≠ name) }
  return id

def aliasNode (name : String) : Parse Node := do
  match (← get).anchors.lookup name with
  | some id => return .alias id
  | none => refuse

def fullTag (handle : String) (suffix : List UInt8) : Parse (List UInt8) := do
  if handle = "" then return suffix
  match (← get).handles.lookup handle with
  | some start => return start ++ suffix
  | none => refuse

def properties : Parse (Option Nat × Option (List UInt8)) := do
  match ← peek with
  | .anchor name =>
    skip
    let id ← declare name
    match ← peek with
    | .tag handle suffix =>
      skip
      return (some id, some (← fullTag handle suffix))
    | _ => return (some id, none)
  | .tag handle suffix =>
    skip
    let tag ← fullTag handle suffix
    match ← peek with
    | .anchor name =>
      skip
      return (some (← declare name), some tag)
    | _ => return (none, some tag)
  | _ => return (none, none)

def orEmpty (ends : List Token) (parse : Parse Node) : Parse Node := do
  if (← peek) ∈ ends then return .empty
  parse

mutual

/-- A node; in a block it may be an indented collection, and after a key of a mapping a list that
is not indented further. -/
def node (inBlock unindented : Bool) : Nat → Parse Node
  | 0 => refuse
  | fuel + 1 => do
    if let .alias name ← peek then
      skip
      return ← aliasNode name
    let (anchor, octets) ← properties
    let tag := octets.bind Tag.ofOctets
    match ← peek with
    | .blockEntry =>
      if unindented then return .sequence anchor tag (← looseItems fuel)
      if anchor.isSome || octets.isSome then return .scalar anchor tag "" .plain
      refuse
    | .scalar text style =>
      skip
      return .scalar anchor tag text style
    | .flowSequenceStart =>
      skip
      return .sequence anchor tag (← flowItems true fuel)
    | .flowMappingStart =>
      skip
      return .mapping anchor tag (← flowEntries true fuel)
    | .sequenceStart =>
      if inBlock then
        skip
        return .sequence anchor tag (← blockItems fuel)
      if anchor.isSome || octets.isSome then return .scalar anchor tag "" .plain
      refuse
    | .mappingStart =>
      if inBlock then
        skip
        return .mapping anchor tag (← blockEntries fuel)
      if anchor.isSome || octets.isSome then return .scalar anchor tag "" .plain
      refuse
    | _ =>
      if anchor.isSome || octets.isSome then return .scalar anchor tag "" .plain
      refuse

def blockItems : Nat → Parse (List Node)
  | 0 => refuse
  | fuel + 1 => do
    match ← next with
    | .blockEntry =>
      let item ← orEmpty [.blockEntry, .blockEnd] (node true false fuel)
      return item :: (← blockItems fuel)
    | .blockEnd => return []
    | _ => refuse

def looseItems : Nat → Parse (List Node)
  | 0 => refuse
  | fuel + 1 => do
    match ← peek with
    | .blockEntry =>
      skip
      let item ← orEmpty [.blockEntry, .key, .value, .blockEnd] (node true false fuel)
      return item :: (← looseItems fuel)
    | _ => return []

def blockEntries : Nat → Parse (List (Node × Node))
  | 0 => refuse
  | fuel + 1 => do
    match ← next with
    | .key =>
      let k ← orEmpty [.key, .value, .blockEnd] (node true true fuel)
      let v ← blockValue fuel
      return (k, v) :: (← blockEntries fuel)
    | .blockEnd => return []
    | _ => refuse

def blockValue : Nat → Parse Node
  | 0 => refuse
  | fuel + 1 => do
    if (← peek) ≠ .value then return .empty
    skip
    orEmpty [.key, .value, .blockEnd] (node true true fuel)

/-- The items of a list in brackets. A pair with a colon is a mapping of its own. -/
def flowItems (first : Bool) : Nat → Parse (List Node)
  | 0 => refuse
  | fuel + 1 => do
    if (← peek) = .flowSequenceEnd then
      skip
      return []
    if !first then
      if (← next) ≠ .flowEntry then refuse
    match ← peek with
    | .flowSequenceEnd =>
      skip
      return []
    | .key =>
      skip
      let k ← flowPairKey fuel
      let v ← flowPairValue .flowSequenceEnd fuel
      return .mapping none none [(k, v)] :: (← flowItems false fuel)
    | _ =>
      let item ← node false false fuel
      return item :: (← flowItems false fuel)

/-- The key of a pair in a list. After an empty key the next mark does not count. -/
def flowPairKey : Nat → Parse Node
  | 0 => refuse
  | fuel + 1 => do
    if (← peek) ∈ [Token.value, .flowEntry, .flowSequenceEnd] then
      skip
      return .empty
    node false false fuel

def flowPairValue (close : Token) : Nat → Parse Node
  | 0 => refuse
  | fuel + 1 => do
    if (← peek) ≠ .value then return .empty
    skip
    orEmpty [.flowEntry, close] (node false false fuel)

/-- The entries of a mapping in braces. A key without a question mark or colon has no value. -/
def flowEntries (first : Bool) : Nat → Parse (List (Node × Node))
  | 0 => refuse
  | fuel + 1 => do
    if (← peek) = .flowMappingEnd then
      skip
      return []
    if !first then
      if (← next) ≠ .flowEntry then refuse
    match ← peek with
    | .flowMappingEnd =>
      skip
      return []
    | .key =>
      skip
      let k ← orEmpty [.value, .flowEntry, .flowMappingEnd] (node false false fuel)
      let v ← flowPairValue .flowMappingEnd fuel
      return (k, v) :: (← flowEntries false fuel)
    | _ =>
      let k ← node false false fuel
      return (k, .empty) :: (← flowEntries false fuel)

end

/-- The directives before a document, each at most once; the version has to be 1.1 or 1.2. -/
def directives (versionSeen : Bool) : Nat → Parse Unit
  | 0 => refuse
  | fuel + 1 => do
    match ← peek with
    | .version major minor =>
      if versionSeen || major ≠ 1 || !(minor == 1 || minor == 2) then refuse
      skip
      directives true fuel
    | .tagDirective handle start =>
      let s ← get
      if (s.handles.lookup handle).isSome then refuse
      set { s with handles := (handle, start) :: s.handles }
      skip
      directives versionSeen fuel
    | _ => return ()

def standardHandles : List (String × List UInt8) :=
  [("!", Tag.octets "!"), ("!!", Tag.octets "tag:yaml.org,2002:")]

def explicitRoot (fuel : Nat) : Parse Node := do
  directives false fuel
  modify fun s => { s with handles := s.handles ++ standardHandles }
  if (← next) ≠ .documentStart then refuse
  orEmpty [.documentStart, .documentEnd, .streamEnd] (node true false fuel)

def bareRoot (fuel : Nat) : Parse Node := do
  modify fun s => { s with handles := standardHandles }
  node true false fuel

def single (fuel : Nat) : Parse Node := do
  let root ← match ← peek with
    | .streamEnd => return .void
    | .version .. | .tagDirective .. | .documentStart => explicitRoot fuel
    | _ => bareRoot fuel
  modify fun s => { s with tokens := s.tokens.dropWhile (· = .documentEnd) }
  if (← peek) = .streamEnd then return root
  refuse

def read? (text : String) : Option Document := do
  let tokens ← tokens? text
  let (root, _) ← (single (4 * tokens.length + 8)).run { tokens }
  return ofRoot root

end Document

end GameDay.Yaml
