import GameDay.Duration.Iso8601
import Mathlib.Data.List.Induction

/-!
The reader of durations in words of fixed size. It checks some of its operations only, and the others stay in
range whatever text it is given.
-/

namespace GameDay.Duration.Iso8601

def within (bound n : Nat) : Option Nat := if n < bound then some n else none

def addDigit (s : Nat × Nat) (c : Char) : Option (Nat × Nat) := do
  let scale := s.2 / 10
  let part ← within limit (digitValue c * scale)
  let sum ← within limit (s.1 + part)
  return (sum, scale)

def unitsWithin (whole billionths unitSecs : Nat) : Option (Except ReadError Nat) := do
  let unit ← within limit (unitSecs * 10 ^ 9)
  let part ← within limit (billionths * unitSecs)
  return if whole * unit + part < limit then .ok (whole * unit + part) else .error .overflow

def componentWithin (number : List Char) (unitSecs : Nat) : Option (Except ReadError Nat) :=
  let whole := number.takeWhile (· ≠ '.')
  let fraction := (number.dropWhile (· ≠ '.')).drop 1
  if whole = [] ∨ '.' ∈ fraction ∨ limit ≤ wholeValue whole then
    some (.error (.invalidNumber (String.ofList number)))
  else ((fraction.take 9).foldlM addDigit (0, 10 ^ 9)).bind fun s =>
    unitsWithin (wholeValue whole) s.1 unitSecs

def stepWithin (s : Progress × Nat) (char : Char) : Option (Except ReadError (Progress × Nat)) :=
  let (p, components) := s
  match designator p.inTime char.toUpper with
  | none => some ((p.step char).map fun q => (q, components))
  | some (rank, unitSecs) =>
    if rank ≤ p.rank then some (.error (.outOfOrder char.toUpper))
    else match componentWithin p.number unitSecs with
      | none => none
      | some (.error e) => some (.error e)
      | some (.ok nanos) =>
        if p.total + nanos < limit then do
          let components ← within (2 ^ 31) (components + 1)
          return .ok ({ p with total := p.total + nanos, rank := rank, number := [] }, components)
        else some (.error .overflow)

def stepsWithin : Progress × Nat → List Char → Option (Except ReadError (Progress × Nat))
  | s, [] => some (.ok s)
  | s, char :: rest =>
    match stepWithin s char with
    | none => none
    | some (.error e) => some (.error e)
    | some (.ok s) => stepsWithin s rest

def finishWithin (s : Progress × Nat) : Option (Except ReadError Duration) :=
  let (p, components) := s
  if p.number ≠ [] then some (.error .dangling)
  else if components = 0 then some (.error .noComponents)
  else if p.total / 10 ^ 9 < 2 ^ 64 then do
    let nanos ← within (2 ^ 32) (p.total % 10 ^ 9)
    let d ← Duration.ofNanos? (p.total / 10 ^ 9 * 10 ^ 9 + nanos)
    return .ok d
  else some (.error .overflow)

def readWithin (text : String) : Option (Except ReadError Duration) :=
  match Text.strip text.toList with
  | [] => some (.error .empty)
  | mark :: rest =>
    if mark = 'P' ∨ mark = 'p' then
      match stepsWithin ({}, 0) rest with
      | none => none
      | some (.error e) => some (.error e)
      | some (.ok s) => finishWithin s
    else some (.error .missingMark)

theorem within_of_lt {bound n : Nat} (h : n < bound) : within bound n = some n := if_pos h

theorem digitValue_le {c : Char} (h : c.isDigit = true) : digitValue c ≤ 9 := by
  simp only [Char.isDigit, Bool.and_eq_true, decide_eq_true_eq] at h
  have upper : c.toNat ≤ '9'.toNat := UInt32.le_iff_toNat_le.1 h.2
  have nine : '9'.toNat = '0'.toNat + 9 := rfl
  unfold digitValue
  omega

theorem wholeValue_concat (digits : List Char) (c : Char) :
    wholeValue (digits ++ [c]) = 10 * wholeValue digits + digitValue c := by
  simp [wholeValue]

theorem wholeValue_append (a b : List Char) :
    wholeValue (a ++ b) = wholeValue a * 10 ^ b.length + wholeValue b := by
  induction b using List.reverseRecOn with
  | nil => simp [wholeValue]
  | append_singleton b c ih =>
    rw [← List.append_assoc, wholeValue_concat, ih, wholeValue_concat, List.length_append,
      List.length_singleton, Nat.pow_succ, ← Nat.mul_assoc]
    omega

theorem wholeValue_cons (c : Char) (digits : List Char) :
    wholeValue (c :: digits) = digitValue c * 10 ^ digits.length + wholeValue digits := by
  rw [← List.singleton_append, wholeValue_append]
  simp [wholeValue]

theorem wholeValue_lt {digits : List Char} (h : ∀ c ∈ digits, c.isDigit = true) :
    wholeValue digits < 10 ^ digits.length := by
  induction digits with
  | nil => decide
  | cons c digits ih =>
    obtain ⟨first, rest⟩ := List.forall_mem_cons.1 h
    have below := ih rest
    have digit := Nat.mul_le_mul_right (10 ^ digits.length) (digitValue_le first)
    rw [wholeValue_cons, List.length_cons, Nat.pow_succ]
    omega

theorem billion_lt_limit : 10 ^ 9 < limit := by decide

theorem foldlM_addDigit {digits : List Char} (h : ∀ c ∈ digits, c.isDigit = true) {places sum : Nat}
    (few : digits.length ≤ places) (below : sum + 10 ^ places ≤ 10 ^ 9) :
    digits.foldlM addDigit (sum, 10 ^ places) =
      some (sum + wholeValue digits * 10 ^ (places - digits.length), 10 ^ (places - digits.length)) := by
  induction digits generalizing places sum with
  | nil => simp [wholeValue]
  | cons c digits ih =>
    obtain ⟨first, rest⟩ := List.forall_mem_cons.1 h
    cases places with
    | zero => simp at few
    | succ places =>
      have digit := Nat.mul_le_mul_right (10 ^ places) (digitValue_le first)
      have small := billion_lt_limit
      rw [Nat.pow_succ] at below
      have added : addDigit (sum, 10 ^ (places + 1)) c =
          some (sum + digitValue c * 10 ^ places, 10 ^ places) := by
        simp only [addDigit, Nat.pow_succ, Nat.mul_div_cancel _ (Nat.succ_pos 9)]
        rw [within_of_lt (by omega)]
        simp only [Option.bind_eq_bind, Option.bind_some]
        rw [within_of_lt (by omega)]
        rfl
      have few : digits.length ≤ places := Nat.le_of_succ_le_succ few
      have scale : 10 ^ digits.length * 10 ^ (places - digits.length) = 10 ^ places := by
        rw [← Nat.pow_add, Nat.add_sub_cancel' few]
      rw [List.foldlM_cons, added]
      simp only [Option.bind_eq_bind, Option.bind_some]
      rw [ih rest few (by omega), wholeValue_cons, List.length_cons, Nat.add_sub_add_right, Nat.add_mul,
        Nat.mul_assoc, scale, Nat.add_assoc]

theorem fractionNanos_lt {digits : List Char} (h : ∀ c ∈ digits, c.isDigit = true) :
    fractionNanos digits < 10 ^ 9 := by
  have below := wholeValue_lt fun c mem => h c (List.mem_of_mem_take (i := 9) mem)
  have few : (digits.take 9).length ≤ 9 := List.length_take_le 9 digits
  unfold fractionNanos
  calc wholeValue (digits.take 9) * 10 ^ (9 - (digits.take 9).length)
      < 10 ^ (digits.take 9).length * 10 ^ (9 - (digits.take 9).length) :=
        Nat.mul_lt_mul_of_pos_right below (Nat.pow_pos (by decide))
    _ = 10 ^ 9 := by rw [← Nat.pow_add, Nat.add_sub_cancel' few]

theorem exists_fractionNanos {digits : List Char} (h : ∀ c ∈ digits, c.isDigit = true) :
    ∃ scale, (digits.take 9).foldlM addDigit (0, 10 ^ 9) = some (fractionNanos digits, scale) := by
  have kept : ∀ c ∈ digits.take 9, c.isDigit = true := fun c mem => h c (List.mem_of_mem_take mem)
  have few : (digits.take 9).length ≤ 9 := List.length_take_le 9 digits
  rw [foldlM_addDigit kept few (Nat.le_of_eq (Nat.zero_add (10 ^ 9))), Nat.zero_add]
  exact ⟨_, rfl⟩

theorem unitSecs_le {inTime : Bool} {c : Char} {rank unitSecs : Nat}
    (h : designator inTime c = some (rank, unitSecs)) : unitSecs ≤ 604800 := by
  unfold designator at h
  split at h <;> cases h <;> decide

theorem rank_bounds {inTime : Bool} {c : Char} {rank unitSecs : Nat}
    (h : designator inTime c = some (rank, unitSecs)) : 0 < rank ∧ rank ≤ 5 := by
  unfold designator at h
  split at h <;> cases h <;> decide

def Collected (number : List Char) : Prop := ∀ c ∈ number, c.isDigit = true ∨ c = '.'

theorem unitsWithin_eq (whole : Nat) {billionths unitSecs : Nat} (below : billionths < 10 ^ 9)
    (few : unitSecs ≤ 604800) : unitsWithin whole billionths unitSecs =
      some (if whole * (unitSecs * 10 ^ 9) + billionths * unitSecs < limit then
        .ok (whole * (unitSecs * 10 ^ 9) + billionths * unitSecs) else .error .overflow) := by
  have room : 10 ^ 9 * 604800 < limit := by decide
  have unit : unitSecs * 10 ^ 9 < limit := by
    rw [Nat.mul_comm]
    exact Nat.lt_of_le_of_lt (Nat.mul_le_mul_left _ few) room
  have part := Nat.lt_of_le_of_lt (Nat.mul_le_mul (Nat.le_of_lt below) few) room
  unfold unitsWithin
  rw [within_of_lt unit, within_of_lt part]
  rfl

theorem componentWithin_eq {number : List Char} (collected : Collected number) {unitSecs : Nat}
    (few : unitSecs ≤ 604800) : componentWithin number unitSecs = some (componentNanos number unitSecs) := by
  unfold componentWithin componentNanos
  simp only
  split
  · rfl
  · rename_i valid
    simp only [not_or] at valid
    have digits : ∀ c ∈ (number.dropWhile (· ≠ '.')).drop 1, c.isDigit = true := by
      intro c mem
      have inside := (List.dropWhile_suffix _).mem (List.mem_of_mem_drop mem)
      rcases collected c inside with digit | rfl
      · exact digit
      · exact (valid.2.1 mem).elim
    obtain ⟨_, billionths⟩ := exists_fractionNanos digits
    rw [billionths, Option.bind_some, unitsWithin_eq _ (fractionNanos_lt digits) few]

structure InRange (s : Progress × Nat) : Prop where
  collected : Collected s.1.number
  fewer : s.2 ≤ s.1.rank
  rank : s.1.rank ≤ 5
  begun : s.2 = 0 → s.1.rank = 0

theorem InRange.collect {p : Progress} {components : Nat} (h : InRange (p, components)) {c : Char}
    (digit : c.isDigit = true ∨ c = '.') : InRange ({ p with number := p.number ++ [c] }, components) :=
  ⟨List.forall_mem_append.2 ⟨h.collected, List.forall_mem_singleton.2 digit⟩, h.fewer, h.rank, h.begun⟩

theorem InRange.next {p : Progress} {components : Nat} (h : InRange (p, components)) {rank : Nat}
    (later : p.rank < rank) (few : rank ≤ 5) (total : Nat) :
    InRange ({ p with total := total, rank := rank, number := [] }, components + 1) := by
  have fewer : components ≤ p.rank := h.fewer
  exact ⟨List.forall_mem_nil _, Nat.le_trans (Nat.succ_le_succ fewer) later, few, fun zero => by cases zero⟩

theorem InRange.step {p q : Progress} {components : Nat} (h : InRange (p, components)) {char : Char}
    (other : designator p.inTime char.toUpper = none) (step : p.step char = .ok q) :
    InRange (q, components) := by
  unfold Progress.step at step
  simp only [other] at step
  split at step
  · cases step
    exact h.collect (.inl ‹_›)
  · split at step
    · cases step
      exact h.collect (.inr rfl)
    · split at step
      · split at step
        · cases step
        · cases step
          exact ⟨h.collected, h.fewer, h.rank, h.begun⟩
      · cases step

theorem step_of_designator {p : Progress} {char : Char} {rank unitSecs : Nat}
    (known : designator p.inTime char.toUpper = some (rank, unitSecs)) :
    p.step char = if rank ≤ p.rank then .error (.outOfOrder char.toUpper)
      else match componentNanos p.number unitSecs with
        | .error e => .error e
        | .ok nanos =>
          if p.total + nanos < limit then
            .ok { p with total := p.total + nanos, rank := rank, number := [] }
          else .error .overflow := by
  have letter : char.toUpper.isDigit = false ∧ ¬ (char.toUpper = '.' ∨ char.toUpper = ',') ∧
      char.toUpper ≠ 'T' := by
    generalize char.toUpper = c at known ⊢
    unfold designator at known
    split at known <;> cases known <;> decide
  obtain ⟨digit, points, mark⟩ := letter
  unfold Progress.step
  simp only
  rw [if_neg (Bool.eq_false_iff.1 digit), if_neg points, if_neg mark]
  generalize designator p.inTime char.toUpper = unit at known
  subst known
  rfl

theorem stepWithin_eq {s : Progress × Nat} (h : InRange s) (char : Char) :
    ∃ r, stepWithin s char = some r ∧ r.map Prod.fst = s.1.step char ∧ ∀ s', r = .ok s' → InRange s' := by
  obtain ⟨p, components⟩ := s
  unfold stepWithin
  simp only
  cases known : designator p.inTime char.toUpper with
  | none =>
    refine ⟨_, rfl, ?_, ?_⟩
    · cases p.step char <;> rfl
    · rintro s' same
      cases step : p.step char with
      | error e =>
        rw [step] at same
        cases same
      | ok q =>
        rw [step] at same
        cases same
        exact h.step known step
  | some unit =>
    obtain ⟨rank, unitSecs⟩ := unit
    rw [step_of_designator known]
    simp only
    split
    · exact ⟨_, rfl, rfl, by rintro _ ⟨⟩⟩
    · rename_i later
      rw [componentWithin_eq h.collected (unitSecs_le known)]
      cases componentNanos p.number unitSecs with
      | error e => exact ⟨_, rfl, rfl, by rintro _ ⟨⟩⟩
      | ok nanos =>
        simp only
        split
        · have few := (rank_bounds known).2
          have fewer : components ≤ p.rank := h.fewer
          rw [within_of_lt (show components + 1 < 2 ^ 31 by omega)]
          refine ⟨_, rfl, rfl, ?_⟩
          rintro _ ⟨⟩
          exact h.next (Nat.lt_of_not_le later) few _
        · exact ⟨_, rfl, rfl, by rintro _ ⟨⟩⟩

theorem stepsWithin_eq {s : Progress × Nat} (h : InRange s) (text : List Char) :
    ∃ r, stepsWithin s text = some r ∧ r.map Prod.fst = text.foldlM Progress.step s.1 ∧
      ∀ s', r = .ok s' → InRange s' := by
  induction text generalizing s with
  | nil =>
    refine ⟨_, rfl, rfl, ?_⟩
    rintro _ ⟨⟩
    exact h
  | cons char rest ih =>
    obtain ⟨r, first, same, kept⟩ := stepWithin_eq h char
    unfold stepsWithin
    rw [first, List.foldlM_cons, ← same]
    cases r with
    | error e => exact ⟨_, rfl, rfl, by rintro _ ⟨⟩⟩
    | ok s' => exact ih (kept s' rfl)

theorem finishWithin_eq {s : Progress × Nat} (h : InRange s) : finishWithin s = some s.1.finish := by
  obtain ⟨p, components⟩ := s
  have zero : components = 0 ↔ p.rank = 0 := ⟨h.begun, fun zero => Nat.le_zero.1 (zero ▸ h.fewer)⟩
  unfold finishWithin Progress.finish
  simp only
  split
  · rfl
  · simp only [zero]
    split
    · rfl
    · have cut := Nat.mod_lt p.total (show 0 < 10 ^ 9 by decide)
      have whole := Nat.div_add_mod' p.total (10 ^ 9)
      have fits : p.total / 10 ^ 9 < 2 ^ 64 ↔ p.total < 2 ^ 64 * 10 ^ 9 :=
        Nat.div_lt_iff_lt_mul (by decide)
      rw [within_of_lt (Nat.lt_trans cut (by decide))]
      simp only [fits]
      unfold Duration.ofNanos?
      by_cases short : p.total < 2 ^ 64 * 10 ^ 9
      · rw [if_pos short, dif_pos short, Option.bind_eq_bind, Option.bind_some, whole, dif_pos short]
        rfl
      · rw [if_neg short, dif_neg short]

theorem readWithin_eq (text : String) : readWithin text = some (read text) := by
  unfold readWithin read readChars
  cases Text.strip text.toList with
  | nil => rfl
  | cons mark rest =>
    simp only
    split
    · have start : InRange ({}, 0) := ⟨List.forall_mem_nil _, Nat.le_refl _, by decide, fun _ => rfl⟩
      obtain ⟨r, run, same, kept⟩ := stepsWithin_eq start rest
      rw [run, ← same]
      cases r with
      | error e => rfl
      | ok s => exact finishWithin_eq (kept s rfl)
    · rfl

end GameDay.Duration.Iso8601
