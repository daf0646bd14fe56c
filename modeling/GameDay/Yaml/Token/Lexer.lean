import GameDay.Yaml.Scalar.Block
import GameDay.Yaml.Scalar.Plain
import GameDay.Yaml.Scalar.Quoted
import GameDay.Yaml.Token.Name

/-!
The tokens of a text.

Indentation shows as tokens for the start and end of collections. Where a key may begin is only
known when the colon after it is met, so the place of each possible key is kept until then.
-/

namespace GameDay.Yaml

/-- A place where a key may have begun: how many tokens came before, and where in the text. A key
that stands where its mapping is indented has to turn out one. -/
structure KeyPlace where
  required : Bool
  number : Nat
  line : Nat
  column : Nat
  index : Nat

structure Lexer where
  cursor : Cursor
  tokens : Array Token := #[]
  keys : List (Option KeyPlace) := [none]
  indents : List Nat := []
  keyAllowed : Bool := true

namespace Lexer

def inFlow (l : Lexer) : Bool := 1 < l.keys.length

def push (l : Lexer) (t : Token) : Lexer := { l with tokens := l.tokens.push t }

def advance (l : Lexer) (n : Nat) : Lexer := { l with cursor := l.cursor.advance n }

/-- Passes blanks, comments and line breaks, for at most so many lines. A tab does not count as
a blank where a key may begin, and a byte order mark takes the first column of its line. -/
def skipBlanks : Nat → Lexer → Lexer
  | 0, l => l
  | fuel + 1, l =>
    let c := match l.cursor.rest with
      | ch :: _ => if l.cursor.column == 0 && ch == byteOrderMark then l.cursor.advance 1 else l.cursor
      | [] => l.cursor
    let tabs := l.inFlow || !l.keyAllowed
    let c := c.skipWhile fun ch => ch == ' ' || (tabs && ch == '\t')
    let c := match c.rest with
      | '#' :: _ => c.skipWhile (!isBreak ·)
      | _ => c
    match c.takeBreak? with
    | some (_, c) => skipBlanks fuel { l with cursor := c, keyAllowed := l.keyAllowed || !l.inFlow }
    | none => { l with cursor := c }

/-- A key has to be followed by its colon in the same line, within 1024 characters. -/
def dropStaleKeys (l : Lexer) : Option Lexer := do
  let c := l.cursor
  let keys ← l.keys.mapM fun
    | some k =>
      if k.line < c.line || k.index + 1024 < c.index then
        if k.required then none else some none
      else some (some k)
    | none => some none
  return { l with keys }

def removeKey (l : Lexer) : Option Lexer :=
  match l.keys with
  | some k :: keys => if k.required then none else some { l with keys := none :: keys }
  | _ => some l

def saveKey (l : Lexer) : Option Lexer :=
  if l.keyAllowed then do
    let l ← l.removeKey
    let c := l.cursor
    let place : KeyPlace :=
      { required := !l.inFlow && l.indents.head? == some c.column
        number := l.tokens.size
        line := c.line
        column := c.column
        index := c.index }
    return { l with keys := some place :: l.keys.drop 1 }
  else some l

/-- Closes the collections that are indented further than the column; none is the margin around
all of them. -/
def unindent (column : Option Nat) : List Nat → Array Token → List Nat × Array Token
  | [], tokens => ([], tokens)
  | i :: is, tokens =>
    let closes : Bool := match column with
      | some n => n < i
      | none => true
    if closes then unindent column is (tokens.push .blockEnd) else (i :: is, tokens)

def closeTo (l : Lexer) (column : Option Nat) : Lexer :=
  if l.inFlow then l
  else
    let (indents, tokens) := unindent column l.indents l.tokens
    { l with indents, tokens }

def openAt (l : Lexer) (column : Nat) (place : Nat) (t : Token) : Lexer :=
  let deeper : Bool := match l.indents.head? with
    | some n => n < column
    | none => true
  if !l.inFlow && deeper then
    { l with indents := column :: l.indents, tokens := l.tokens.insertIdxIfInBounds place t }
  else l

def openHere (l : Lexer) (t : Token) : Lexer := l.openAt l.cursor.column l.tokens.size t

def mark (l : Lexer) (t : Token) (length : Nat) (keyAllowed : Bool) : Lexer :=
  { (l.push t).advance length with keyAllowed }

def streamEnd (l : Lexer) : Option Lexer := do
  let l ← (l.closeTo none).removeKey
  return l.push .streamEnd

def directive (l : Lexer) : Option Lexer := do
  let l ← (l.closeTo none).removeKey
  let (t, cursor) ← Name.directive? (l.cursor.advance 1)
  return { l.push t with cursor, keyAllowed := false }

def documentMark (l : Lexer) (t : Token) : Option Lexer := do
  let l ← (l.closeTo none).removeKey
  return l.mark t 3 false

def flowStart (l : Lexer) (t : Token) : Option Lexer := do
  let l ← l.saveKey
  return { l.mark t 1 true with keys := none :: l.keys }

def flowEnd (l : Lexer) (t : Token) : Option Lexer := do
  let l ← l.removeKey
  let keys := if l.inFlow then l.keys.drop 1 else l.keys
  return { l.mark t 1 false with keys }

def flowEntry (l : Lexer) : Option Lexer := do
  let l ← l.removeKey
  return l.mark .flowEntry 1 true

def blockEntry (l : Lexer) : Option Lexer := do
  if !l.inFlow && !l.keyAllowed then none
  let l ← (l.openHere .sequenceStart).removeKey
  return l.mark .blockEntry 1 true

def explicitKey (l : Lexer) : Option Lexer := do
  if !l.inFlow && !l.keyAllowed then none
  let l ← (l.openHere .mappingStart).removeKey
  return l.mark .key 1 (!l.inFlow)

def value (l : Lexer) : Option Lexer :=
  match l.keys with
  | some k :: keys =>
    let l := { l with keys := none :: keys, tokens := l.tokens.insertIdxIfInBounds k.number .key }
    some ((l.openAt k.column k.number .mappingStart).mark .value 1 false)
  | _ =>
    if l.inFlow then some (l.mark .value 1 false)
    else if l.keyAllowed then some ((l.openHere .mappingStart).mark .value 1 true)
    else none

def named (l : Lexer) (t : String → Token) : Option Lexer := do
  let l ← l.saveKey
  let (name, cursor) ← Name.anchor? (l.cursor.advance 1)
  return { l.push (t name) with cursor, keyAllowed := false }

def tag (l : Lexer) : Option Lexer := do
  let l ← l.saveKey
  let (t, cursor) ← Name.tag? l.inFlow l.cursor
  return { l.push t with cursor, keyAllowed := false }

def blockScalar (l : Lexer) (folds : Bool) : Option Lexer := do
  let l ← l.removeKey
  let (text, cursor) ← Block.scalar? folds l.indents.head? (l.cursor.advance 1)
  let style := if folds then Style.folded else .literal
  return { l.push (.scalar (String.ofList text) style) with cursor, keyAllowed := true }

def quoted (l : Lexer) (double : Bool) : Option Lexer := do
  let l ← l.saveKey
  let c := l.cursor.advance 1
  let (text, cursor) ← Quoted.read double (c.rest.length + 1) [] c
  return { l.push (.scalar (String.ofList text) .quoted) with cursor, keyAllowed := false }

def plain (l : Lexer) : Option Lexer := do
  let l ← l.saveKey
  let indent := match l.indents.head? with
    | some n => n + 1
    | none => 0
  let r ← Plain.read l.inFlow indent (l.cursor.rest.length + 1) [] {} l.cursor
  return { l.push (.scalar (String.ofList r.text) .plain) with cursor := r.cursor, keyAllowed := r.broken }

def isIndicator (c : Char) : Bool :=
  ['-', '?', ':', ',', '[', ']', '\x7b', '\x7d', '#', '&', '*', '!', '|', '>', '\'', '"', '%', '@',
    Char.ofNat 0x60].contains c

def startsPlain (l : Lexer) (c : Char) (rest : List Char) : Bool :=
  !(isIndicator c || endsWord (c :: rest)) ||
    (c == '-' && !((rest.head?.map isSpace).getD false)) ||
    (!l.inFlow && (c == '?' || c == ':') && !endsWord rest)

def token (l : Lexer) : Option Lexer :=
  match l.cursor.rest with
  | [] => l.streamEnd
  | c :: rest =>
    if l.cursor.column == 0 && c == '%' then l.directive
    else if l.cursor.atDocumentMark then
      l.documentMark (if c == '-' then .documentStart else .documentEnd)
    else
      match c with
      | '[' => l.flowStart .flowSequenceStart
      | '\x7b' => l.flowStart .flowMappingStart
      | ']' => l.flowEnd .flowSequenceEnd
      | '\x7d' => l.flowEnd .flowMappingEnd
      | ',' => l.flowEntry
      | '*' => l.named .alias
      | '&' => l.named .anchor
      | '!' => l.tag
      | '\'' => l.quoted false
      | '"' => l.quoted true
      | _ =>
        if c == '-' && endsWord rest then l.blockEntry
        else if c == '?' && (l.inFlow || endsWord rest) then l.explicitKey
        else if c == ':' && (l.inFlow || endsWord rest) then l.value
        else if (c == '|' || c == '>') && !l.inFlow then l.blockScalar (c == '>')
        else if l.startsPlain c rest then l.plain
        else none

def all : Nat → Lexer → Option (List Token)
  | 0, _ => none
  | fuel + 1, l => do
    let l ← (skipBlanks (l.cursor.rest.length + 1) l).dropStaleKeys
    let ended := l.cursor.rest.isEmpty
    let l ← (l.closeTo (some l.cursor.column)).token
    if ended then return l.tokens.toList else all fuel l

end Lexer

def tokens? (text : String) : Option (List Token) :=
  let chars := text.toList
  if chars.all isAllowed then Lexer.all (chars.length + 2) { cursor := { rest := chars } } else none

end GameDay.Yaml
