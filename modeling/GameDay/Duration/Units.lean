import GameDay.Duration.Basic
import GameDay.Text.Blank

/-!
Durations as numbers with units, such as 1h 30m or 2.5 seconds: reading and writing.

A number may have a decimal fraction if the amount is whole in the resolution of its unit:
nanoseconds for units up to the minute, seconds for longer ones. A month has 30.44 days and a
year 365.25.
-/

namespace GameDay.Duration

inductive TimeUnit
  | nanosecond | microsecond | millisecond | second | minute | hour | day | week | month | year
deriving DecidableEq

namespace TimeUnit

def nanos : TimeUnit → Nat
  | nanosecond => 1
  | microsecond => 10 ^ 3
  | millisecond => 10 ^ 6
  | second => 10 ^ 9
  | minute => 60 * 10 ^ 9
  | hour => 3600 * 10 ^ 9
  | day => 86400 * 10 ^ 9
  | week => 604800 * 10 ^ 9
  | month => 2630016 * 10 ^ 9
  | year => 31557600 * 10 ^ 9

def wholeStep : TimeUnit → Nat
  | nanosecond | microsecond | millisecond => 1
  | _ => 10 ^ 9

def fractionStep : TimeUnit → Nat
  | nanosecond | microsecond | millisecond | second | minute => 1
  | _ => 10 ^ 9

def names : TimeUnit → List String
  | nanosecond => ["nanos", "nsec", "ns"]
  | microsecond => ["usec", "us", "µs"]
  | millisecond => ["millis", "msec", "ms"]
  | second => ["seconds", "second", "secs", "sec", "s"]
  | minute => ["minutes", "minute", "mins", "min", "m"]
  | hour => ["hours", "hour", "hrs", "hr", "h"]
  | day => ["days", "day", "d"]
  | week => ["weeks", "week", "wks", "wk", "w"]
  | month => ["months", "month", "M"]
  | year => ["years", "year", "yrs", "yr", "y"]

def all : List TimeUnit :=
  [nanosecond, microsecond, millisecond, second, minute, hour, day, week, month, year]

def ofName? (name : String) : Option TimeUnit :=
  all.find? fun u => decide (name ∈ u.names)

end TimeUnit

def counter? (n : Nat) : Option Nat := if n < 2 ^ 64 then some n else none

/-- A number as written: its whole part, and the digits of its fraction as a quotient. -/
structure Quantity where
  whole : Nat
  fraction : Option (Nat × Nat) := none
deriving DecidableEq

namespace Quantity

def add? (d : Duration) (steps step : Nat) : Option Duration := do
  let nanos ← if step = 1 then (counter? (d.subsecNanos + steps)).map fun _ => steps else some (steps * step)
  Duration.ofNanos? (d.nanos + nanos)

def addTo? (q : Quantity) (unit : TimeUnit) (d : Duration) : Option Duration := do
  let steps ← counter? (q.whole * (unit.nanos / unit.wholeStep))
  let d ← add? d steps unit.wholeStep
  match q.fraction with
  | none => return d
  | some (numerator, denominator) =>
    if unit = .nanosecond then none
    else
      let steps ← counter? (numerator * (unit.nanos / unit.fractionStep))
      if steps % denominator = 0 then add? d (steps / denominator) unit.fractionStep else none

end Quantity

inductive ReadState
  | start
  | between
  | whole (n : Nat)
  | fraction (n numerator denominator : Nat)
  | unit (q : Quantity) (letters : List Char)
deriving DecidableEq

def isUnitLetter (c : Char) : Bool := c.isAlpha || c == 'µ'

def digit (c : Char) : Nat := c.toNat - '0'.toNat

def closeUnit? (d : Duration) (q : Quantity) (letters : List Char) : Option Duration := do
  let unit ← TimeUnit.ofName? (String.ofList letters)
  q.addTo? unit d

def readStep? : ReadState × Duration → Char → Option (ReadState × Duration)
  | (.start, d), c =>
    if c.isDigit then some (.whole (digit c), d)
    else if Text.isBlank c then some (.start, d) else none
  | (.between, d), c =>
    if c.isDigit then some (.whole (digit c), d)
    else if Text.isBlank c then some (.between, d) else none
  | (.whole n, d), c =>
    if c.isDigit then (counter? (10 * n + digit c)).map fun n => (.whole n, d)
    else if Text.isBlank c then some (.whole n, d)
    else if isUnitLetter c then some (.unit ⟨n, none⟩ [c], d)
    else if c = '.' then some (.fraction n 0 1, d) else none
  | (.fraction n numerator denominator, d), c =>
    if c.isDigit then do
      let denominator ← counter? (10 * denominator)
      let numerator ← counter? (10 * numerator + digit c)
      return (.fraction n numerator denominator, d)
    else if Text.isBlank c then some (.fraction n numerator denominator, d)
    else if isUnitLetter c ∧ denominator ≠ 1 then
      some (.unit ⟨n, some (numerator, denominator)⟩ [c], d)
    else none
  | (.unit q letters, d), c =>
    if c.isDigit then (closeUnit? d q letters).map fun d => (.whole (digit c), d)
    else if Text.isBlank c then (closeUnit? d q letters).map fun d => (.between, d)
    else if isUnitLetter c then some (.unit q (letters ++ [c]), d) else none

def readFinish? : ReadState × Duration → Option Duration
  | (.between, d) => some d
  | (.unit q letters, d) => closeUnit? d q letters
  | _ => none

def read? (text : String) : Option Duration :=
  if text = "0" then some zero
  else (text.toList.foldlM readStep? (.start, zero)).bind readFinish?

def item (amount : Nat) (unit : String) : List String :=
  if amount = 0 then [] else [toString amount ++ unit]

def pluralItem (amount : Nat) (unit : String) : List String :=
  item amount (if amount = 1 then unit else unit ++ "s")

/-- Writes a duration in units from years to nanoseconds, leaving out those that are zero. -/
def inUnits (d : Duration) : String :=
  let inYear := d.secs % 31557600
  let inMonth := inYear % 2630016
  let inDay := inMonth % 86400
  let items := pluralItem (d.secs / 31557600) "year" ++ pluralItem (inYear / 2630016) "month" ++
    pluralItem (inMonth / 86400) "day" ++ item (inDay / 3600) "h" ++ item (inDay % 3600 / 60) "m" ++
    item (inDay % 60) "s" ++ item (d.subsecNanos / 10 ^ 6) "ms" ++
    item (d.subsecNanos / 10 ^ 3 % 1000) "us" ++ item (d.subsecNanos % 1000) "ns"
  if items = [] then "0s" else String.intercalate " " items

end GameDay.Duration
