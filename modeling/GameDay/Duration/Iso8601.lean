import GameDay.Duration.Basic
import GameDay.Text.Blank

/-!
Durations in ISO 8601 notation with components of fixed length: weeks and days, then after a
T hours, minutes and seconds. A number may have a fraction, of which nine digits count.
-/

namespace GameDay.Duration.Iso8601

inductive ReadError
  | empty
  | missingMark
  | noComponents
  | unsupported (designator : Char)
  | outOfOrder (designator : Char)
  | invalidNumber (number : String)
  | dangling
  | overflow
deriving DecidableEq

def ReadError.message : ReadError → String
  | .empty => "empty duration"
  | .missingMark => "duration must start with 'P'"
  | .noComponents => "duration has no components"
  | .unsupported c => "unsupported designator '" ++ c.toString ++ "'"
  | .outOfOrder c => "designator '" ++ c.toString ++ "' out of order or repeated"
  | .invalidNumber number => "invalid number '" ++ number ++ "'"
  | .dangling => "number without designator at end of input"
  | .overflow => "duration out of range"

def designator : Bool → Char → Option (Nat × Nat)
  | false, 'W' => some (1, 604800)
  | false, 'D' => some (2, 86400)
  | true, 'H' => some (3, 3600)
  | true, 'M' => some (4, 60)
  | true, 'S' => some (5, 1)
  | _, _ => none

def digitValue (c : Char) : Nat := c.toNat - '0'.toNat

def wholeValue (digits : List Char) : Nat :=
  digits.foldl (fun n c => 10 * n + digitValue c) 0

def fractionNanos (digits : List Char) : Nat :=
  let kept := digits.take 9
  wholeValue kept * 10 ^ (9 - kept.length)

/-- Intermediate values are kept below 2^128. -/
def limit : Nat := 2 ^ 128

def componentNanos (number : List Char) (unitSecs : Nat) : Except ReadError Nat :=
  let whole := number.takeWhile (· ≠ '.')
  let fraction := (number.dropWhile (· ≠ '.')).drop 1
  if whole = [] ∨ '.' ∈ fraction ∨ limit ≤ wholeValue whole then
    .error (.invalidNumber (String.ofList number))
  else
    let nanos := wholeValue whole * (unitSecs * 10 ^ 9) + fractionNanos fraction * unitSecs
    if nanos < limit then .ok nanos else .error .overflow

/-- What has been read: the sum so far, whether the T was met, the place of the last
designator (0 before the first), and the number being collected. -/
structure Progress where
  total : Nat := 0
  inTime : Bool := false
  rank : Nat := 0
  number : List Char := []
deriving DecidableEq

def Progress.step (p : Progress) (char : Char) : Except ReadError Progress :=
  let c := char.toUpper
  if c.isDigit then .ok { p with number := p.number ++ [c] }
  else if c = '.' ∨ c = ',' then .ok { p with number := p.number ++ ['.'] }
  else if c = 'T' then
    if p.inTime ∨ p.number ≠ [] then .error (.outOfOrder 'T') else .ok { p with inTime := true }
  else match designator p.inTime c with
    | none => .error (.unsupported c)
    | some (rank, unitSecs) =>
      if rank ≤ p.rank then .error (.outOfOrder c)
      else match componentNanos p.number unitSecs with
        | .error e => .error e
        | .ok nanos =>
          if p.total + nanos < limit then
            .ok { p with total := p.total + nanos, rank := rank, number := [] }
          else .error .overflow

def Progress.finish (p : Progress) : Except ReadError Duration :=
  if p.number ≠ [] then .error .dangling
  else if p.rank = 0 then .error .noComponents
  else match Duration.ofNanos? p.total with
    | some d => .ok d
    | none => .error .overflow

def readChars (text : List Char) : Except ReadError Duration :=
  match Text.strip text with
  | [] => .error .empty
  | mark :: rest =>
    if mark = 'P' ∨ mark = 'p' then
      match rest.foldlM Progress.step {} with
      | .ok p => p.finish
      | .error e => .error e
    else .error .missingMark

def read (text : String) : Except ReadError Duration := readChars text.toList

end GameDay.Duration.Iso8601
