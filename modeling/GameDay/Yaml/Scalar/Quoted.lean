import GameDay.Text.Digits
import GameDay.Yaml.Scalar.Gap

namespace GameDay.Yaml.Quoted

def simpleEscape? : Char → Option Char
  | '0' => some '\x00'
  | 'a' => some '\x07'
  | 'b' => some '\x08'
  | 't' | '\t' => some '\t'
  | 'n' => some '\n'
  | 'v' => some '\x0b'
  | 'f' => some '\x0c'
  | 'r' => some '\r'
  | 'e' => some '\x1b'
  | ' ' => some ' '
  | '"' => some '"'
  | '/' => some '/'
  | '\\' => some '\\'
  | 'N' => some '\u0085'
  | '_' => some '\u00A0'
  | 'L' => some '\u2028'
  | 'P' => some '\u2029'
  | _ => none

def codeLength? : Char → Option Nat
  | 'x' => some 2
  | 'u' => some 4
  | 'U' => some 8
  | _ => none

def code? (length : Nat) (rest : List Char) : Option Char := do
  let digits ← (rest.take length).mapM Text.hexValue?
  let n := digits.foldl (fun n d => 16 * n + d) 0
  if digits.length = length ∧ n.isValidChar then some (Char.ofNat n) else none

inductive RunEnd
  | blank
  | quote
  | escapedBreak
deriving DecidableEq

def run (double : Bool) : Nat → Cursor → Option (List Char × RunEnd × Cursor)
  | 0, _ => none
  | fuel + 1, c =>
    let more (text : Char) (length : Nat) : Option (List Char × RunEnd × Cursor) :=
      (run double fuel (c.advance length)).map fun (chars, r) => (text :: chars, r)
    match c.rest with
    | [] => some ([], .blank, c)
    | ch :: rest =>
      if isSpace ch || isBreak ch then some ([], .blank, c)
      else if double then
        if ch == '"' then some ([], .quote, c)
        else if ch == '\\' then
          match rest with
          | [] => none
          | e :: rest =>
            if isBreak e then some ([], .escapedBreak, (c.advance 1).skipBreak)
            else
              match simpleEscape? e, codeLength? e with
              | some text, _ => more text 2
              | none, some length => (code? length rest).bind fun text => more text (length + 2)
              | none, none => none
        else more ch 1
      else if ch == '\'' then
        match rest with
        | '\'' :: _ => more '\'' 2
        | _ => some ([], .quote, c)
      else more ch 1

def read (double : Bool) : Nat → List Char → Cursor → Option (List Char × Cursor)
  | 0, _, _ => none
  | fuel + 1, text, c =>
    if c.atDocumentMark || c.rest.isEmpty then none
    else do
      let (chars, ended, c) ← run double (c.rest.length + 1) c
      let text := text ++ chars
      let quote := if double then '"' else '\''
      if ended = .quote ∨ c.rest.head? = some quote then return (text, c.advance 1)
      let (gap, c) ← Gap.read 0 (c.rest.length + 1) c { broken := ended = .escapedBreak }
      read double fuel (text ++ gap.folded) c

end GameDay.Yaml.Quoted
