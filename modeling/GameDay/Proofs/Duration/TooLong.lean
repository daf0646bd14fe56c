import GameDay.Proofs.Duration.Components

namespace GameDay.Duration.Iso8601

/-- The number of a component cannot be held, and what stands before it can be added up. -/
def StopsAt (parts : List Component) (c : Component) : Prop :=
  ∃ before after, parts = before ++ c :: after ∧ total before < limit ∧ limit ≤ wholeValue c.whole

section Sums

variable {parts before after : List Component} {c : Component} {sum : Nat}

theorem wholeValue_le_nanos (well : c.WellFormed) (unit : 0 < c.unit.2) : wholeValue c.whole ≤ c.nanos := by
  have billion : 0 < 10 ^ 9 := by decide
  calc wholeValue c.whole
      ≤ wholeValue c.whole * 10 ^ 9 := Nat.le_mul_of_pos_right _ billion
    _ ≤ billionths c.whole c.places := by
      rw [billionths_eq well.places]
      exact Nat.le_add_right _ _
    _ ≤ c.nanos := Nat.le_mul_of_pos_right _ unit

theorem addUp_of_lt (well : ∀ c ∈ parts, c.WellFormed) (units : ∀ c ∈ parts, 0 < c.unit.2)
    (room : sum + total parts < limit) : addUp sum parts = .ok (sum + total parts) := by
  induction parts generalizing sum with
  | nil => rfl
  | cons c parts ih =>
    obtain ⟨first, rest⟩ := List.forall_mem_cons.1 well
    obtain ⟨unit, others⟩ := List.forall_mem_cons.1 units
    have small := wholeValue_le_nanos first unit
    rw [total_cons] at room ⊢
    unfold addUp
    rw [if_neg (by omega), if_pos (by omega), ih rest others (by omega), Nat.add_assoc]

theorem addUp_of_stopsAt (well : ∀ c ∈ parts, c.WellFormed) (units : ∀ c ∈ parts, 0 < c.unit.2)
    (stops : StopsAt parts c) :
    addUp 0 parts = .error (.invalidNumber (String.ofList (collect c.number))) := by
  obtain ⟨before, after, rfl, room, long⟩ := stops
  have sum : addUp 0 before = .ok (0 + total before) := by
    apply addUp_of_lt
    · exact fun c mem => well c (List.mem_append_left _ mem)
    · exact fun c mem => units c (List.mem_append_left _ mem)
    · omega
  rw [addUp_append, sum]
  unfold Except.bind addUp
  exact if_pos long

theorem addUp_overflows (below : sum < limit) (exceeded : limit ≤ sum + total parts)
    (held : ∀ before c after, parts = before ++ c :: after → limit ≤ wholeValue c.whole →
      limit ≤ sum + total before) : addUp sum parts = .error .overflow := by
  induction parts generalizing sum with
  | nil =>
    have nothing : total [] = 0 := rfl
    omega
  | cons c parts ih =>
    unfold addUp
    have small : ¬ limit ≤ wholeValue c.whole := by
      intro long
      have reached := held [] c parts rfl long
      have nothing : total [] = 0 := rfl
      omega
    rw [if_neg small]
    split
    · rename_i room
      apply ih room
      · rw [total_cons] at exceeded
        omega
      · rintro before d after rfl long
        have reached := held (c :: before) d after rfl long
        rw [total_cons] at reached
        omega
    · rfl

theorem not_stopsAt_iff : (¬ ∃ c, StopsAt parts c) ↔ ∀ before c after, parts = before ++ c :: after →
    limit ≤ wholeValue c.whole → limit ≤ 0 + total before := by
  constructor
  · intro none before c after split long
    by_contra room
    exact none ⟨c, before, after, split, by omega, long⟩
  · rintro held ⟨c, before, after, split, room, long⟩
    have reached := held before c after split long
    omega

end Sums

/-- What is written as a duration of 2^64 seconds or more is refused: because of the first number that comes to
2^128 itself, if there is one and the components before it come to less nanoseconds, and else as out of
range. -/
theorem refused_when_too_long {text : String} {n : Nat} (written : Written (plain text) n)
    (long : 2 ^ 64 * 10 ^ 9 ≤ n) : ∃ parts, Spelled (plain text) parts ∧ n = total parts ∧
      (∀ c, StopsAt parts c → read text = .error (.invalidNumber (String.ofList (collect c.number)))) ∧
      ((¬ ∃ c, StopsAt parts c) → read text = .error .overflow) := by
  obtain ⟨parts, spelled, rfl⟩ := written_iff.1 written
  refine ⟨parts, spelled, rfl, ?_, ?_⟩
  · intro c stops
    rw [read_spelled spelled, addUp_of_stopsAt spelled.well spelled.unit_pos stops]
    rfl
  · intro none
    rw [read_spelled spelled]
    by_cases room : 0 + total parts < limit
    · have sum := addUp_of_lt spelled.well spelled.unit_pos room
      have refused : Duration.ofNanos? (0 + total parts) = Option.none := by
        apply dif_neg
        omega
      rw [sum]
      simp only [Except.bind, refused]
    · have start : 0 < limit := by decide
      rw [addUp_overflows start (by omega) (not_stopsAt_iff.1 none)]
      rfl

def ages : String := "P99999999999999999999999999999999999WT340282366920938463463374607431768211456,5S"

def agesNanos : Nat := 99999999999999999999999999999999999 * 604800 * 10 ^ 9 + (2 ^ 128 * 10 ^ 9 + 5 * 10 ^ 8)

theorem ages_refused : Written (plain ages) agesNanos ∧ 2 ^ 64 * 10 ^ 9 ≤ agesNanos ∧
    ∃ parts, Spelled (plain ages) parts ∧ agesNanos = total parts ∧
      (∀ c, StopsAt parts c → read ages = .error (.invalidNumber (String.ofList (collect c.number)))) ∧
      ((¬ ∃ c, StopsAt parts c) → read ages = .error .overflow) := by
  have weeks : Numeral "99999999999999999999999999999999999".toList
      (billionths "99999999999999999999999999999999999".toList []) :=
    .whole (by decide) (digits_of_all (by decide))
  have seconds : Numeral ("340282366920938463463374607431768211456".toList ++ ',' :: ['5'])
      (billionths "340282366920938463463374607431768211456".toList ['5']) :=
    .fraction (by decide) (digits_of_all (by decide)) (by decide) (digits_of_all (by decide))
  have written : Written (plain ages) agesNanos :=
    .intro (.time (.take weeks (.skip .nil)) (.skip (.skip (.take seconds .nil)))) (by decide)
  have long : 2 ^ 64 * 10 ^ 9 ≤ agesNanos := by decide
  exact ⟨written, long, refused_when_too_long written long⟩

def eternity : String := "PT340282366920938463463374607431768211456S"

/-- The number is the reason that is given, and not the range. -/
theorem eternity_not_overflow : Written (plain eternity) (2 ^ 128 * 10 ^ 9) ∧
    2 ^ 64 * 10 ^ 9 ≤ 2 ^ 128 * 10 ^ 9 ∧
    read eternity = .error (.invalidNumber "340282366920938463463374607431768211456") ∧
    read eternity ≠ .error .overflow := by
  have seconds : Numeral "340282366920938463463374607431768211456".toList
      (billionths "340282366920938463463374607431768211456".toList []) :=
    .whole (by decide) (digits_of_all (by decide))
  have written : Written (plain eternity) (2 ^ 128 * 10 ^ 9) :=
    .intro (.time (.empty dateUnits) (.skip (.skip (.take seconds .nil)))) (by decide)
  have refused : read eternity = .error (.invalidNumber "340282366920938463463374607431768211456") := by
    decide +kernel
  refine ⟨written, by decide, refused, ?_⟩
  rw [refused]
  rintro ⟨⟩

end GameDay.Duration.Iso8601
