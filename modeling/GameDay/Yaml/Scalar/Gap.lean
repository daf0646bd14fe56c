import GameDay.Yaml.Cursor

/-!
Blanks and line breaks inside a scalar that spans several lines.

Blanks within a line are kept. A single line break becomes a blank, and of several the first is
left out; blanks around line breaks do not count.
-/

namespace GameDay.Yaml

structure Gap where
  broken : Bool := false
  first : Option Char := none
  later : List Char := []
  spaces : List Char := []

namespace Gap

def isEmpty (g : Gap) : Bool := !g.broken && g.spaces.isEmpty

def folded (g : Gap) : List Char :=
  if g.broken then
    match g.first with
    | some '\n' => if g.later.isEmpty then [' '] else g.later
    | some c => c :: g.later
    | none => g.later
  else g.spaces

def addBreak (g : Gap) (c : Char) : Gap :=
  if g.broken then { g with later := g.later ++ [c] }
  else { g with broken := true, first := some c, spaces := [] }

/-- Reads on, for at most so many characters. In a new line a tab may not stand where
indentation is expected. -/
def read (indent : Nat) : Nat → Cursor → Gap → Option (Gap × Cursor)
  | 0, c, g => some (g, c)
  | fuel + 1, c, g =>
    match c.rest with
    | [] => some (g, c)
    | ch :: _ =>
      if isSpace ch then
        if g.broken then
          if ch == '\t' && c.column < indent then none else read indent fuel (c.advance 1) g
        else read indent fuel (c.advance 1) { g with spaces := g.spaces ++ [ch] }
      else
        match c.takeBreak? with
        | some (br, c) => read indent fuel c (g.addBreak br)
        | none => some (g, c)

end Gap

end GameDay.Yaml
