import GameDay.Yaml.Scalar.Gap

namespace GameDay.Yaml.Plain

def startsWithOneOf (marks : List Char) : List Char → Bool
  | c :: _ => marks.contains c
  | [] => false

/-- A run of characters up to the next blank or mark. In brackets a colon may not touch another
mark. -/
def run (inFlow : Bool) : List Char → Option (List Char)
  | [] => some []
  | c :: rest =>
    if isSpace c || isBreak c then some []
    else if inFlow && c == ':' && startsWithOneOf [',', '?', '[', ']', '\x7b', '\x7d'] rest then none
    else if (c == ':' && endsWord rest) || (inFlow && [',', '[', ']', '\x7b', '\x7d'].contains c) then
      some []
    else (run inFlow rest).map (c :: ·)

structure Result where
  text : List Char
  broken : Bool
  cursor : Cursor

def read (inFlow : Bool) (indent : Nat) : Nat → List Char → Gap → Cursor → Option Result
  | 0, text, gap, c => some ⟨text, gap.broken, c⟩
  | fuel + 1, text, gap, c =>
    if c.atDocumentMark || startsWithOneOf ['#'] c.rest then some ⟨text, gap.broken, c⟩
    else do
      let chars ← run inFlow c.rest
      if chars.isEmpty then return ⟨text, gap.broken, c⟩
      let text := text ++ gap.folded ++ chars
      let c := c.advance chars.length
      let (gap, c) ← Gap.read indent (c.rest.length + 1) c {}
      if gap.isEmpty || (!inFlow && c.column < indent) then return ⟨text, gap.broken, c⟩
      read inFlow indent fuel text gap c

end GameDay.Yaml.Plain
