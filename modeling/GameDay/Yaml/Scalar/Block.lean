import GameDay.Yaml.Cursor

namespace GameDay.Yaml.Block

inductive Chomping
  | strip
  | clip
  | keep
deriving DecidableEq

def chomping? : Char → Option Chomping
  | '-' => some .strip
  | '+' => some .keep
  | _ => none

/-- The marks after the bar or angle, in either order: chomping, and a number for the
indentation, which may not be zero. -/
def header? (c : Cursor) : Option (Chomping × Nat × Cursor) :=
  let number (ch : Char) : Option Nat :=
    if ch.isDigit then some (ch.toNat - '0'.toNat) else none
  match c.rest with
  | a :: rest =>
    match chomping? a, number a with
    | some chomping, _ =>
      match rest.head?.bind number with
      | some 0 => none
      | some n => some (chomping, n, c.advance 2)
      | none => some (chomping, 0, c.advance 1)
    | none, some 0 => none
    | none, some n =>
      match rest.head?.bind chomping? with
      | some chomping => some (chomping, n, c.advance 2)
      | none => some (.clip, n, c.advance 1)
    | none, none => some (.clip, 0, c)
  | [] => some (.clip, 0, c)

/-- Empty lines, with at most the given indentation; zero stands for any. Also tells the widest
indentation met. -/
def emptyLines (indent : Nat) :
    Nat → Cursor → List Char → Nat → Option (List Char × Nat × Cursor)
  | 0, _, _, _ => none
  | fuel + 1, c, breaks, widest =>
    let spaces := (c.rest.takeWhile (· == ' ')).length
    let c := c.advance (if indent = 0 then spaces else min spaces (indent - c.column))
    let widest := max widest c.column
    if (indent = 0 || c.column < indent) && c.rest.head? == some '\t' then none
    else
      match c.takeBreak? with
      | some (br, c) => emptyLines indent fuel c (breaks ++ [br]) widest
      | none => some (breaks, widest, c)

/-- The text so far, with the line break that ended its last line, the empty lines after it, and
whether that line began with a blank. -/
structure Lines where
  text : List Char := []
  lastBreak : List Char := []
  empty : List Char
  blank : Bool := false

def read (folds : Bool) (indent : Nat) : Nat → Cursor → Lines → Option (Lines × Cursor)
  | 0, c, l => some (l, c)
  | fuel + 1, c, l =>
    if c.column ≠ indent ∨ c.rest = [] then some (l, c)
    else do
      let blank := (c.rest.head?.map isSpace).getD false
      let joined :=
        if folds && l.lastBreak == ['\n'] && !l.blank && !blank then
          if l.empty.isEmpty then [' '] else []
        else l.lastBreak
      let chars := c.rest.takeWhile (!isBreak ·)
      let text := l.text ++ joined ++ l.empty ++ chars
      let (lastBreak, c) := match (c.advance chars.length).takeBreak? with
        | some (br, c) => ([br], c)
        | none => ([], c.advance chars.length)
      let (empty, _, c) ← emptyLines indent (c.rest.length + 1) c [] 0
      read folds indent fuel c { text, lastBreak, empty, blank }

def scalar? (folds : Bool) (parent : Option Nat) (c : Cursor) : Option (List Char × Cursor) := do
  let (chomping, increment, c) ← header? c
  let c := c.skipToLineEnd
  if !endsLine c.rest then none
  let c := c.skipBreak
  let indent := if increment = 0 then 0 else parent.getD 0 + increment
  let (empty, widest, c) ← emptyLines indent (c.rest.length + 1) c [] 0
  let least := match parent with
    | some n => n + 1
    | none => 1
  let indent := if indent = 0 then max widest least else indent
  let (l, c) ← read folds indent (c.rest.length + 1) c { empty }
  let text := match chomping with
    | .strip => l.text
    | .clip => l.text ++ l.lastBreak
    | .keep => l.text ++ l.lastBreak ++ l.empty
  return (text, c)

end GameDay.Yaml.Block
