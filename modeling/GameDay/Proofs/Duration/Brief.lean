import GameDay.Duration.Brief
import GameDay.Proofs.Duration.Ranges
import GameDay.Proofs.Text.Numerals
import Mathlib.Data.List.Basic

namespace GameDay.Duration.Brief

open Iso8601 (wholeValue)
open Text.Json (isDigits isDigits_iff)

inductive Reads : List Char → Nat → Prop
  | millis {x : List Char} (number : isDigits x) : Reads (x ++ ['m', 's']) (wholeValue x * 10 ^ 6)
  | tenths {s : List Char} {t : Char} (seconds : isDigits s) (tenth : isDigits [t]) :
      Reads (s ++ ['.', t, 's']) (wholeValue s * 10 ^ 9 + wholeValue [t] * 10 ^ 8)
  | minutes {m s : List Char} (minutes : isDigits m) (seconds : isDigits s) (below : wholeValue s < 60) :
      Reads (m ++ 'm' :: ' ' :: (s ++ ['s'])) ((wholeValue m * 60 + wholeValue s) * 10 ^ 9)
  | minutesMillis {m s : List Char} {a b c : Char} (minutes : isDigits m) (seconds : isDigits s)
      (below : wholeValue s < 60) (millis : isDigits [a, b, c]) :
      Reads (m ++ 'm' :: ' ' :: (s ++ ['.', a, b, c, 's']))
        ((wholeValue m * 60 + wholeValue s) * 10 ^ 9 + wholeValue [a, b, c] * 10 ^ 6)

def value? (text : List Char) : Option Nat :=
  let number := wholeValue (text.takeWhile Char.isDigit)
  match text.dropWhile Char.isDigit with
  | ['m', 's'] => some (number * 10 ^ 6)
  | ['.', t, 's'] => some (number * 10 ^ 9 + wholeValue [t] * 10 ^ 8)
  | 'm' :: ' ' :: rest =>
    let seconds := wholeValue (rest.takeWhile Char.isDigit)
    match rest.dropWhile Char.isDigit with
    | ['s'] => some ((number * 60 + seconds) * 10 ^ 9)
    | ['.', a, b, c, 's'] => some ((number * 60 + seconds) * 10 ^ 9 + wholeValue [a, b, c] * 10 ^ 6)
    | _ => none
  | _ => none

section Reading

variable {text : List Char} {v w : Nat}

theorem number_stops {x : List Char} (number : isDigits x) {c : Char} (stop : c.isDigit = false)
    (rest : List Char) :
    (x ++ c :: rest).takeWhile Char.isDigit = x ∧ (x ++ c :: rest).dropWhile Char.isDigit = c :: rest :=
  Text.Json.takeWhile_stops (isDigits_iff.1 number).2 (by simpa using stop)

theorem Reads.value? (h : Reads text v) : value? text = some v := by
  unfold Brief.value?
  cases h with
  | millis number =>
    obtain ⟨first, rest⟩ := number_stops number (c := 'm') rfl ['s']
    simp only [first, rest]
  | @tenths s t seconds =>
    obtain ⟨first, rest⟩ := number_stops seconds (c := '.') rfl [t, 's']
    simp only [first, rest]
  | @minutes m s minutes seconds =>
    obtain ⟨first, rest⟩ := number_stops minutes (c := 'm') rfl (' ' :: (s ++ ['s']))
    obtain ⟨second, closing⟩ := number_stops seconds (c := 's') rfl []
    simp only [first, rest, second, closing]
  | @minutesMillis m s a b c minutes seconds =>
    obtain ⟨first, rest⟩ := number_stops minutes (c := 'm') rfl (' ' :: (s ++ ['.', a, b, c, 's']))
    obtain ⟨second, closing⟩ := number_stops seconds (c := '.') rfl [a, b, c, 's']
    simp only [first, rest, second, closing]

theorem Reads.unique (h : Reads text v) (h' : Reads text w) : v = w :=
  Option.some.inj (h.value?.symm.trans h'.value?)

theorem Reads.characters (h : Reads text v) : ∀ c ∈ text, c.isDigit = true ∨ c ∈ ['m', 's', '.', ' '] := by
  cases h <;> simp only [List.forall_mem_append, List.forall_mem_cons] <;> grind [isDigits_iff]

end Reading

section Writing

variable {n : Nat}

theorem wholeValue_toDigits (n : Nat) : wholeValue (Nat.toDigits 10 n) = n := Nat.ofDigitChars_ten_toDigits

theorem toList_toString (n : Nat) : (toString n).toList = Nat.toDigits 10 n := by simp

theorem toList_padded (width n : Nat) : (Text.padded width n).toList =
    List.replicate (width - (Nat.toDigits 10 n).length) '0' ++ Nat.toDigits 10 n := by
  simp only [Text.padded, String.toList_append, String.toList_ofList, ← String.length_toList, toList_toString]

theorem wholeValue_padded (width n : Nat) : wholeValue (Text.padded width n).toList = n := by
  have zeros (k : Nat) : wholeValue (List.replicate k '0') = 0 := by
    induction k with
    | zero => rfl
    | succ k ih => rw [List.replicate_succ', Iso8601.wholeValue_concat, ih]; rfl
  rw [toList_padded, Iso8601.wholeValue_append, wholeValue_toDigits, zeros, Nat.zero_mul, Nat.zero_add]

theorem isDigits_padded (width n : Nat) : isDigits (Text.padded width n).toList := by
  obtain ⟨some, digits⟩ := isDigits_iff.1 (Text.Json.isDigits_toDigits n)
  rw [toList_padded, isDigits_iff]
  refine ⟨fun empty => some (List.append_eq_nil_iff.1 empty).2, fun c mem => ?_⟩
  rcases List.mem_append.1 mem with zero | digit
  · rw [List.eq_of_mem_replicate zero]
    rfl
  · exact digits c digit

theorem length_padded {width : Nat} (some : 0 < width) (fits : n < 10 ^ width) :
    (Text.padded width n).toList.length = width := by
  have short := (Nat.length_toDigits_le_iff (by decide) some).2 fits
  rw [toList_padded, List.length_append, List.length_replicate]
  omega

end Writing

/-- The least step between values that are written of durations like this one, in nanoseconds. -/
def resolution (d : Duration) : Nat := if 10 ^ 9 ≤ d.nanos ∧ d.nanos < 60 * 10 ^ 9 then 10 ^ 8 else 10 ^ 6

def shown (d : Duration) : Nat := d.nanos / resolution d * resolution d

section Shown

variable {d e : Duration}

theorem shown_of_minutes (long : 60 ≤ d.secs) :
    shown d = (d.secs / 60 * 60 + d.secs % 60) * 10 ^ 9 + d.subsecMillis * 10 ^ 6 := by
  simp only [shown, resolution, subsecMillis, subsecNanos, secs] at *
  rw [if_neg (by omega)]
  omega

theorem shown_of_millis (short : d.millis < 1000) : shown d = d.millis * 10 ^ 6 := by
  simp only [shown, resolution, millis] at *
  rw [if_neg (by omega)]

theorem shown_of_tenths (short : ¬60 ≤ d.secs) (long : ¬d.millis < 1000) :
    shown d = d.secs * 10 ^ 9 + d.subsecMillis / 100 * 10 ^ 8 := by
  simp only [shown, resolution, subsecMillis, subsecNanos, secs, millis] at *
  rw [if_pos (by omega)]
  omega

theorem shown_mono (le : d ≤ e) : shown d ≤ shown e := by
  rw [le_iff] at le
  simp only [shown, resolution]
  split <;> split <;> omega

theorem shown_le (d : Duration) : shown d ≤ d.nanos := Nat.div_mul_le_self _ _

theorem lt_shown_add (d : Duration) : d.nanos < shown d + resolution d := by
  have positive : 0 < resolution d := by
    unfold resolution
    split <;> decide
  exact Nat.lt_div_mul_add positive

end Shown

theorem reads_brief (d : Duration) : Reads d.brief.toList (shown d) := by
  have digits (n : Nat) : isDigits (Nat.toDigits 10 n) := Text.Json.isDigits_toDigits n
  have below : wholeValue (Nat.toDigits 10 (d.secs % 60)) < 60 := by
    rw [wholeValue_toDigits]
    exact Nat.mod_lt _ (by decide)
  unfold brief
  split
  · rename_i long
    rw [shown_of_minutes long]
    split
    · have fits : d.subsecMillis < 10 ^ 3 := by
        have := d.subsecNanos_lt
        unfold subsecMillis
        omega
      have millis := isDigits_padded 3 d.subsecMillis
      have value := wholeValue_padded 3 d.subsecMillis
      obtain ⟨a, b, c, places⟩ := List.length_eq_three.1 (length_padded (by decide) fits)
      rw [places] at millis value
      have read := Reads.minutesMillis (digits (d.secs / 60)) (digits (d.secs % 60)) below millis
      simpa [wholeValue_toDigits, value, places] using read
    · rename_i whole
      have read := Reads.minutes (digits (d.secs / 60)) (digits (d.secs % 60)) below
      have none : d.subsecMillis = 0 := Nat.eq_zero_of_not_pos whole
      simpa [wholeValue_toDigits, none] using read
  · rename_i short
    split
    · rename_i millis
      rw [shown_of_millis millis]
      simpa [wholeValue_toDigits] using Reads.millis (digits d.millis)
    · rename_i long
      rw [shown_of_tenths short long]
      have tenth : d.subsecMillis / 100 < 10 := by
        have := d.subsecNanos_lt
        unfold subsecMillis
        omega
      obtain ⟨t, written⟩ : ∃ t, Nat.toDigits 10 (d.subsecMillis / 100) = [t] :=
        ⟨_, Nat.toDigits_of_lt_base tenth⟩
      have value := wholeValue_toDigits (d.subsecMillis / 100)
      rw [written] at value
      have read := Reads.tenths (digits d.secs) (written ▸ digits _)
      simpa [wholeValue_toDigits, value, written] using read

/-- The short form of a duration is read in one way only, as that duration but for less than a tenth of a second
from one second to a minute, and for less than a millisecond elsewhere. Of two durations, the longer one is not
read as the shorter. -/
theorem brief_cut_off (d : Duration) : ∃ v, Reads d.brief.toList v ∧ (∀ w, Reads d.brief.toList w → w = v) ∧
    v ≤ d.nanos ∧
    (if 10 ^ 9 ≤ d.nanos ∧ d.nanos < 60 * 10 ^ 9 then d.nanos - v < 100 * 10 ^ 6 else d.nanos - v < 10 ^ 6) ∧
    ∀ e w, d ≤ e → Reads e.brief.toList w → v ≤ w := by
  refine ⟨shown d, reads_brief d, fun w read => read.unique (reads_brief d), shown_le d, ?_, ?_⟩
  · have near := lt_shown_add d
    unfold resolution at near
    split at near
    · rename_i seconds
      rw [if_pos seconds]
      omega
    · rename_i other
      rw [if_neg other]
      omega
  · intro e w le read
    rw [read.unique (reads_brief e)]
    exact shown_mono le

def lastTenth : Duration := ⟨59999999999, by decide⟩

def minute : Duration := ⟨60000000000, by decide⟩

theorem lastTenth_cut_off : lastTenth ≤ minute ∧ lastTenth.brief = "59.9s" ∧ minute.brief = "1m 0s" ∧
    ∃ v w, Reads lastTenth.brief.toList v ∧ Reads minute.brief.toList w ∧ lastTenth.nanos - v < 100 * 10 ^ 6 ∧
      v ≤ w := by
  have le : lastTenth ≤ minute := by decide
  obtain ⟨v, read, -, -, near, mono⟩ := brief_cut_off lastTenth
  rw [if_pos (by decide)] at near
  exact ⟨le, by decide, by decide, v, _, read, reads_brief minute, near, mono minute _ le (reads_brief minute)⟩

end GameDay.Duration.Brief
