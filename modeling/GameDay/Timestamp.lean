import GameDay.Decimal.Binary64
import GameDay.Text.Digits

namespace GameDay

structure Timestamp where
  nanos : Int
deriving DecidableEq

namespace Timestamp

instance : LE Timestamp := ⟨fun s t => s.nanos ≤ t.nanos⟩

instance (s t : Timestamp) : Decidable (s ≤ t) := inferInstanceAs (Decidable (s.nanos ≤ t.nanos))

theorem le_iff {s t : Timestamp} : s ≤ t ↔ s.nanos ≤ t.nanos := Iff.rfl

def epoch : Timestamp := ⟨0⟩

instance : Inhabited Timestamp := ⟨epoch⟩

def firstSecond : Int := -8334601228800

def lastSecond : Int := 8210266876799

/-- The instant so many seconds after 1970; instants that have no calendar date become 1970. -/
def ofEpoch (secs : Int) (nanos : Nat) : Timestamp :=
  if firstSecond ≤ secs ∧ secs ≤ lastSecond then ⟨secs * 10 ^ 9 + nanos⟩ else epoch

/-- The whole billionths in a part of a second, which is a floating-point number, as is its
product with a billion. -/
def billionths : Binary64 → Nat
  | .finite _ m e =>
    let (num, den) := Binary64.scale m e
    match Binary64.ofFraction false (num * 10 ^ 9) den with
    | .finite _ m e => Binary64.truncate m e
    | _ => 0
  | _ => 0

def ofSeconds : Binary64 → Timestamp
  | .finite negative m e =>
    let (num, den) := Binary64.scale m e
    let signed : Int := if negative then -(num : Int) else num
    ofEpoch (signed / den) (billionths (.ofFraction false (signed % den).toNat den))
  | _ => epoch

def secs (t : Timestamp) : Int := t.nanos / 10 ^ 9

def subsecNanos (t : Timestamp) : Nat := (t.nanos % 10 ^ 9).toNat

end Timestamp

structure Date where
  year : Int
  month : Nat
  day : Nat
deriving DecidableEq

namespace Date

/-- The date so many days after 1970-01-01. Years are counted from March, in eras of 400. -/
def ofDays (days : Int) : Date :=
  let shifted := days + 719468
  let era := shifted / 146097
  let dayOfEra := (shifted % 146097).toNat
  let yearOfEra := (dayOfEra - dayOfEra / 1460 + dayOfEra / 36524 - dayOfEra / 146096) / 365
  let dayOfYear := dayOfEra - (365 * yearOfEra + yearOfEra / 4 - yearOfEra / 100)
  let fromMarch := (5 * dayOfYear + 2) / 153
  let month := if fromMarch < 10 then fromMarch + 3 else fromMarch - 9
  let year := era * 400 + yearOfEra
  { year := if month ≤ 2 then year + 1 else year
    month
    day := dayOfYear - (153 * fromMarch + 2) / 5 + 1 }

def yearText (year : Int) : String :=
  if year < 0 then "-" ++ Text.padded 4 year.natAbs
  else if year ≤ 9999 then Text.padded 4 year.natAbs
  else "+" ++ toString year

def text (d : Date) : String :=
  yearText d.year ++ "-" ++ Text.padded 2 d.month ++ "-" ++ Text.padded 2 d.day

end Date

namespace Timestamp

def date (t : Timestamp) : Date := Date.ofDays (t.secs / 86400)

def clockText (t : Timestamp) : String :=
  let second := (t.secs % 86400).toNat
  Text.padded 2 (second / 3600) ++ ":" ++ Text.padded 2 (second % 3600 / 60) ++ ":" ++
    Text.padded 2 (second % 60)

def fractionText (t : Timestamp) : String :=
  let n := t.subsecNanos
  if n = 0 then ""
  else if n % 10 ^ 6 = 0 then "." ++ Text.padded 3 (n / 10 ^ 6)
  else if n % 10 ^ 3 = 0 then "." ++ Text.padded 6 (n / 10 ^ 3)
  else "." ++ Text.padded 9 n

def rfc3339 (t : Timestamp) : String :=
  t.date.text ++ "T" ++ t.clockText ++ t.fractionText ++ "+00:00"

def text (t : Timestamp) : String := t.date.text ++ " " ++ t.clockText ++ " UTC"

end Timestamp

end GameDay
