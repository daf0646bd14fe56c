import GameDay.Proofs.Duration.Components
import Mathlib.Data.Rat.Floor
import Mathlib.Tactic.FieldSimp
import Mathlib.Tactic.Linarith
import Mathlib.Tactic.LinearCombination
import Mathlib.Tactic.Positivity
import Mathlib.Tactic.Ring

namespace GameDay.Duration.Iso8601

def beyond (f : List Char) : ℚ := wholeValue (f.drop 9) / 10 ^ (f.drop 9).length

def Component.exactNanos (c : Component) : ℚ :=
  wholeValue (c.whole ++ c.places) / 10 ^ c.places.length * (c.unit.2 * 10 ^ 9)

def exactNanos (parts : List Component) : ℚ := (parts.map Component.exactNanos).sum

section Places

variable {w f : List Char} {parts : List Component} {c : Component}

theorem beyond_nonneg (f : List Char) : 0 ≤ beyond f := by
  unfold beyond
  positivity

theorem beyond_lt_one (places : Digits f) : beyond f < 1 := by
  have rest : wholeValue (f.drop 9) < 10 ^ (f.drop 9).length :=
    wholeValue_lt fun c mem => places c (List.mem_of_mem_drop mem)
  unfold beyond
  rw [div_lt_one (by positivity)]
  exact_mod_cast rest

theorem beyond_of_length_le (few : f.length ≤ 9) : beyond f = 0 := by
  unfold beyond
  rw [List.drop_eq_nil_of_le few]
  simp [wholeValue]

theorem fraction_eq (f : List Char) : (wholeValue f : ℚ) / 10 ^ f.length * 10 ^ 9 = fractionNanos f + beyond f := by
  unfold fractionNanos beyond
  by_cases few : f.length ≤ 9
  · have scale : (10 : ℚ) ^ 9 = 10 ^ (9 - f.length) * 10 ^ f.length := by
      rw [← pow_add, Nat.sub_add_cancel few]
    have nothing : wholeValue [] = 0 := rfl
    rw [List.take_of_length_le few, List.drop_eq_nil_of_le few, nothing, scale]
    push_cast
    field_simp
    simp
  · have nine : (f.take 9).length = 9 := List.length_take_of_le (Nat.le_of_not_le few)
    have value : wholeValue f = wholeValue (f.take 9) * 10 ^ (f.drop 9).length + wholeValue (f.drop 9) := by
      rw [← wholeValue_append, List.take_append_drop]
    have length : f.length = (f.drop 9).length + 9 := by
      rw [List.length_drop, Nat.sub_add_cancel (Nat.le_of_not_le few)]
    simp only [nine]
    rw [value, length, pow_add]
    push_cast
    field_simp

theorem Component.WellFormed.exactNanos_eq (h : c.WellFormed) :
    c.exactNanos = c.nanos + beyond c.places * c.unit.2 := by
  have fraction := fraction_eq c.places
  unfold Component.exactNanos Component.nanos
  rw [billionths_eq h.places, wholeValue_append]
  push_cast
  have parted : ((wholeValue c.whole : ℚ) * 10 ^ c.places.length + wholeValue c.places) / 10 ^ c.places.length =
      wholeValue c.whole + wholeValue c.places / 10 ^ c.places.length := by
    field_simp
  rw [parted]
  linear_combination (c.unit.2 : ℚ) * fraction

theorem exactNanos_concat (parts : List Component) (c : Component) :
    exactNanos (parts ++ [c]) = exactNanos parts + c.exactNanos := by
  unfold exactNanos
  rw [List.map_append, List.sum_append, List.map_singleton, List.sum_singleton]

theorem exactNanos_eq_total (well : ∀ c ∈ parts, c.WellFormed) (round : ∀ c ∈ parts, c.fraction = none) :
    exactNanos parts = total parts := by
  induction parts using List.reverseRecOn with
  | nil => simp [exactNanos, total]
  | append_singleton parts c ih =>
    obtain ⟨rest, first⟩ := List.forall_mem_append.1 well
    obtain ⟨others, none⟩ := List.forall_mem_append.1 round
    have first := List.forall_mem_singleton.1 first
    have none := List.forall_mem_singleton.1 none
    have value : c.exactNanos = c.nanos := by
      have nothing : c.places = [] := by rw [Component.places, none, Option.elim]
      have unlost : beyond [] = 0 := beyond_of_length_le (Nat.zero_le 9)
      rw [first.exactNanos_eq, nothing, unlost, zero_mul, add_zero]
    rw [exactNanos_concat, ih rest others, value, total_append, total_singleton]
    push_cast
    rfl

theorem eq_floor_iff {n : Nat} {x r : ℚ} (sum : x = n + r) (nonneg : 0 ≤ r) : n = ⌊x⌋₊ ↔ r < 1 := by
  rw [eq_comm, Nat.floor_eq_iff (by rw [sum]; positivity), sum]
  constructor
  · rintro ⟨_, above⟩
    linarith
  · intro small
    constructor <;> linarith

end Places

/-- A duration of which only the last component has a fraction is read as its value but for what the places
after the ninth come to, counted in units. So it is that value cut to nanoseconds exactly if those come to less
than one: always in seconds, and with nine places at most. -/
theorem exact_but_for_later_places {text : String} {init : List Component} {last : Component} {d : Duration}
    (spelled : Spelled (plain text) (init ++ [last])) (round : ∀ c ∈ init, c.fraction = none)
    (accepted : read text = .ok d) :
    exactNanos (init ++ [last]) = d.nanos + beyond last.places * last.unit.2 ∧
    d.nanos ≤ exactNanos (init ++ [last]) ∧ exactNanos (init ++ [last]) < d.nanos + last.unit.2 ∧
    (d.nanos = ⌊exactNanos (init ++ [last])⌋₊ ↔ beyond last.places * last.unit.2 < 1) ∧
    (last.unit.2 = 1 ∨ last.places.length ≤ 9 → d.nanos = ⌊exactNanos (init ++ [last])⌋₊) := by
  have wells := spelled.well
  have well := wells last (by simp)
  have unit : (0 : ℚ) < last.unit.2 := by exact_mod_cast spelled.unit_pos last (by simp)
  have value : exactNanos (init ++ [last]) = d.nanos + beyond last.places * last.unit.2 := by
    have first := exactNanos_eq_total (fun c mem => wells c (List.mem_append_left _ mem)) round
    rw [exactNanos_concat, first, well.exactNanos_eq, nanos_of_read spelled accepted, total_append, total_singleton]
    push_cast
    ring
  have nonneg : 0 ≤ beyond last.places * last.unit.2 := mul_nonneg (beyond_nonneg _) unit.le
  have lost := mul_lt_mul_of_pos_right (beyond_lt_one well.places) unit
  rw [one_mul] at lost
  have floor := eq_floor_iff value nonneg
  refine ⟨value, ?_, ?_, floor, ?_⟩
  · rw [value]
    linarith
  · rw [value]
    linarith
  · rintro (seconds | few)
    · apply floor.2
      rw [seconds, Nat.cast_one] at lost
      rwa [seconds, Nat.cast_one]
    · apply floor.2
      rw [beyond_of_length_le few, zero_mul]
      exact zero_lt_one

def day : Component := { whole := ['1'], unit := ('D', 86400) }

def minutes : Component :=
  { whole := ['0'], fraction := some (',', "1234567890123".toList), unit := ('M', 60) }

theorem day_wellFormed : day.WellFormed :=
  ⟨by decide, digits_of_all (by decide), by decide, digits_of_all (by decide)⟩

theorem minutes_wellFormed : minutes.WellFormed :=
  ⟨by decide, digits_of_all (by decide), by decide, digits_of_all (by decide)⟩

theorem minutes_exact : Spelled (plain "p1dt0,1234567890123m") ([day] ++ [minutes]) ∧
    (∀ c ∈ [day], c.fraction = none) ∧
    read "p1dt0,1234567890123m" = .ok ⟨86407407407340, by decide⟩ ∧
    86407407407340 = ⌊exactNanos ([day] ++ [minutes])⌋₊ := by
  have spelled : Spelled (plain "p1dt0,1234567890123m") ([day] ++ [minutes]) :=
    .time (by simp) ⟨List.forall_mem_singleton.2 day_wellFormed, by decide⟩
      ⟨List.forall_mem_singleton.2 minutes_wellFormed, by decide⟩
  have round : ∀ c ∈ [day], c.fraction = none := by decide
  have accepted : read "p1dt0,1234567890123m" = .ok ⟨86407407407340, by decide⟩ := by decide +kernel
  obtain ⟨_, _, _, floor, _⟩ := exact_but_for_later_places spelled round accepted
  refine ⟨spelled, round, accepted, floor.2 ?_⟩
  have value : wholeValue (minutes.places.drop 9) = 123 := by decide
  have length : (minutes.places.drop 9).length = 4 := by decide
  rw [beyond, value, length]
  norm_num [minutes]

def weeks : Component :=
  { whole := ['0'], fraction := some ('.', "0000000001".toList), unit := ('W', 604800) }

/-- It is over 60 microseconds long, and read as nothing. -/
theorem weeks_lost : Spelled (plain "P0.0000000001W") ([] ++ [weeks]) ∧
    read "P0.0000000001W" = .ok .zero ∧ ⌊exactNanos ([] ++ [weeks])⌋₊ = 60480 := by
  have well : weeks.WellFormed := ⟨by decide, digits_of_all (by decide), by decide, digits_of_all (by decide)⟩
  have spelled : Spelled (plain "P0.0000000001W") ([] ++ [weeks]) :=
    .date (by simp) ⟨List.forall_mem_singleton.2 well, by decide⟩
  have nanos : exactNanos ([] ++ [weeks]) = (60480 : ℕ) := by
    have value : wholeValue (weeks.whole ++ weeks.places) = 1 := by decide
    have places : weeks.places.length = 10 := by decide
    rw [exactNanos_concat, Component.exactNanos, value, places]
    norm_num [exactNanos, weeks]
  refine ⟨spelled, by decide +kernel, ?_⟩
  rw [nanos, Nat.floor_natCast]

end GameDay.Duration.Iso8601
