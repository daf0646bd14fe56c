import GameDay.Text.Digits
import GameDay.Yaml.Cursor
import GameDay.Yaml.Token.Basic

namespace GameDay.Yaml.Name

def anchor? (c : Cursor) : Option (String × Cursor) :=
  let name := c.rest.takeWhile isWordChar
  let c := c.advance name.length
  let ended := endsWord c.rest ||
    match c.rest with
    | ch :: _ => ['?', ':', ',', ']', '\x7d', '%', '@', Char.ofNat 0x60].contains ch
    | [] => true
  if name ≠ [] && ended then some (String.ofList name, c) else none

def isTagChar (inAngles : Bool) (c : Char) : Bool :=
  isWordChar c ||
    [';', '/', '?', ':', '@', '&', '=', '+', '$', '.', '!', '~', '*', '\'', '(', ')'].contains c ||
    (inAngles && [',', '[', ']'].contains c)

def octet? : List Char → Option Nat
  | '%' :: a :: b :: _ => do return 16 * (← Text.hexValue? a) + (← Text.hexValue? b)
  | _ => none

def continuation? : Nat → List Char → Option (List Nat)
  | 0, _ => some []
  | n + 1, cs => do
    let octet ← octet? cs
    if octet / 64 ≠ 2 then none
    return octet :: (← continuation? n (cs.drop 3))

/-- The octets of a character, of which the first tells the number. They need not make up one. -/
def escaped? (cs : List Char) : Option (List Nat) := do
  let first ← octet? cs
  let width ←
    if first < 0x80 then some 1
    else if first / 32 = 6 then some 2
    else if first / 16 = 14 then some 3
    else if first / 8 = 30 then some 4
    else none
  return first :: (← continuation? (width - 1) (cs.drop 3))

def tagOctets? (inAngles : Bool) : Nat → Cursor → Option (List UInt8 × Cursor)
  | 0, c => some ([], c)
  | fuel + 1, c =>
    match c.rest with
    | [] => some ([], c)
    | ch :: _ =>
      if ch == '%' then do
        let octets ← escaped? c.rest
        let (more, c) ← tagOctets? inAngles fuel (c.advance (3 * octets.length))
        return (octets.map Nat.toUInt8 ++ more, c)
      else if isTagChar inAngles ch then do
        let (more, c) ← tagOctets? inAngles fuel (c.advance 1)
        return (ch.toNat.toUInt8 :: more, c)
      else some ([], c)

def beforeZero (octets : List UInt8) : List UInt8 := octets.takeWhile (· ≠ 0)

def handle (c : Cursor) : List Char × Cursor :=
  let word := (c.rest.drop 1).takeWhile isWordChar
  let c := c.advance (1 + word.length)
  match c.rest with
  | '!' :: _ => ('!' :: word ++ ['!'], c.advance 1)
  | _ => ('!' :: word, c)

def tag? (inFlow : Bool) (c : Cursor) : Option (Token × Cursor) := do
  let fuel := c.rest.length + 1
  let (token, c) ← match c.rest with
    | '!' :: '<' :: _ => do
      let (octets, c) ← tagOctets? true fuel (c.advance 2)
      if octets.isEmpty || c.rest.head? != some '>' then none
      some (Token.tag "" (beforeZero octets), c.advance 1)
    | _ => do
      let (head, c) := handle c
      let (octets, c) ← tagOctets? false fuel c
      if head.length ≥ 2 && head.getLast? == some '!' then
        if octets.isEmpty then none
        else some (Token.tag (String.ofList head) (beforeZero octets), c)
      else
        match beforeZero ((head.drop 1).map (·.toNat.toUInt8) ++ octets) with
        | [] => some (Token.tag "" [0x21], c)
        | suffix => some (Token.tag "!" suffix, c)
  let ended := endsWord c.rest || (inFlow && c.rest.head? == some ',')
  if ended then return (token, c) else none

def number? (c : Cursor) : Option (Nat × Cursor) :=
  let digits := c.rest.takeWhile Char.isDigit
  if digits = [] ∨ 9 < digits.length then none
  else
    some (digits.foldl (fun n d => 10 * n + (d.toNat - '0'.toNat)) 0, c.advance digits.length)

def directive? (c : Cursor) : Option (Token × Cursor) := do
  let name := c.rest.takeWhile isWordChar
  let c := c.advance name.length
  if name.isEmpty || !endsWord c.rest then none
  let c := c.skipWhile isSpace
  let (token, c) ← match String.ofList name with
    | "YAML" => do
      let (major, c) ← number? c
      if c.rest.head? != some '.' then none
      let (minor, c) ← number? (c.advance 1)
      some (Token.version major minor, c)
    | "TAG" => do
      if c.rest.head? != some '!' then none
      let (head, c) := handle c
      if head.length ≥ 2 && head.getLast? != some '!' then none
      if !((c.rest.head?.map isSpace).getD false) then none
      let c := c.skipWhile isSpace
      let (octets, c) ← tagOctets? true (c.rest.length + 1) c
      if octets.isEmpty || !endsWord c.rest then none
      some (Token.tagDirective (String.ofList head) (beforeZero octets), c)
    | _ => none
  let c := c.skipToLineEnd
  if endsLine c.rest then return (token, c.skipBreak) else none

end GameDay.Yaml.Name
