import GameDay.Proofs.Duration.Ranges
import Mathlib.Data.List.TakeWhile

namespace GameDay.Duration.Iso8601

def plain (text : String) : List Char := (Text.strip text.toList).map Char.toUpper

/-- The whole billionths in the number that has these digits before and after the point. -/
def billionths (whole fraction : List Char) : Nat :=
  wholeValue (whole ++ fraction) * 10 ^ 9 / 10 ^ fraction.length

def Digits (text : List Char) : Prop := ∀ c ∈ text, c.isDigit = true

inductive Numeral : List Char → Nat → Prop
  | whole {w : List Char} (some : w ≠ []) (digits : Digits w) : Numeral w (billionths w [])
  | fraction {w f : List Char} {point : Char} (some : w ≠ []) (digits : Digits w)
      (separates : point = '.' ∨ point = ',') (places : Digits f) :
      Numeral (w ++ point :: f) (billionths w f)

def dateUnits : List (Char × Nat) := [('W', 604800), ('D', 86400)]

def timeUnits : List (Char × Nat) := [('H', 3600), ('M', 60), ('S', 1)]

/-- Components with units of a list, in its order, how many they are and their sum in nanoseconds. -/
inductive Parts : List (Char × Nat) → List Char → Nat → Nat → Prop
  | nil : Parts [] [] 0 0
  | skip {unit : Char × Nat} {units : List (Char × Nat)} {text : List Char} {k n : Nat}
      (rest : Parts units text k n) : Parts (unit :: units) text k n
  | take {letter : Char} {secs b k n : Nat} {units : List (Char × Nat)} {number text : List Char}
      (numeral : Numeral number b) (rest : Parts units text k n) :
      Parts ((letter, secs) :: units) (number ++ letter :: text) (k + 1) (b * secs + n)

/-- Components with units of a list, and perhaps those of the time after a T. -/
inductive Body (units : List (Char × Nat)) : List Char → Nat → Nat → Prop
  | date {text : List Char} {k n : Nat} (date : Parts units text k n) : Body units text k n
  | time {before after : List Char} {k m l n : Nat} (date : Parts units before k m)
      (time : Parts timeUnits after l n) : Body units (before ++ 'T' :: after) (k + l) (m + n)

inductive Written : List Char → Nat → Prop
  | intro {text : List Char} {k n : Nat} (body : Body dateUnits text k n) (some : 0 < k) :
      Written ('P' :: text) n

section Numbers

variable {text w f : List Char} {b n secs : Nat}

theorem fractionNanos_eq (places : Digits f) :
    fractionNanos f = wholeValue f * 10 ^ 9 / 10 ^ f.length := by
  unfold fractionNanos
  by_cases few : f.length ≤ 9
  · have scale : 10 ^ (9 - f.length) * 10 ^ f.length = 10 ^ 9 := by
      rw [← Nat.pow_add, Nat.sub_add_cancel few]
    simp only [List.take_of_length_le few]
    rw [← scale, ← Nat.mul_assoc, Nat.mul_div_cancel _ (Nat.pow_pos (by decide))]
  · have nine : (f.take 9).length = 9 := List.length_take_of_le (Nat.le_of_not_le few)
    have rest : wholeValue (f.drop 9) < 10 ^ (f.drop 9).length :=
      wholeValue_lt fun c mem => places c (List.mem_of_mem_drop mem)
    have length : 10 ^ f.length = 10 ^ (f.drop 9).length * 10 ^ 9 := by
      rw [← Nat.pow_add, List.length_drop, Nat.sub_add_cancel (Nat.le_of_not_le few)]
    have value : wholeValue f = wholeValue (f.drop 9) + wholeValue (f.take 9) * 10 ^ (f.drop 9).length := by
      rw [Nat.add_comm, ← wholeValue_append, List.take_append_drop]
    simp only [nine]
    rw [length, value, Nat.mul_div_mul_right _ _ (by decide),
      Nat.add_mul_div_right _ _ (Nat.pow_pos (by decide)), Nat.div_eq_of_lt rest, Nat.zero_add]
    exact Nat.mul_one _

theorem billionths_eq (places : Digits f) :
    billionths w f = wholeValue w * 10 ^ 9 + fractionNanos f := by
  unfold billionths
  rw [fractionNanos_eq places, wholeValue_append, Nat.add_mul, Nat.mul_right_comm,
    Nat.add_comm, Nat.add_mul_div_right _ _ (Nat.pow_pos (by decide)), Nat.add_comm]

def Numeric (text : List Char) : Prop := ∀ c ∈ text, c.isDigit = true ∨ c = '.' ∨ c = ','

/-- A text of digits and separators as the reader collects it, with a point for a comma. -/
def collect (text : List Char) : List Char := text.map fun c => if c = ',' then '.' else c

theorem collect_digits (digits : Digits w) : collect w = w := by
  have same : ∀ c ∈ w, (if c = ',' then '.' else c) = c := by
    intro c mem
    apply if_neg
    rintro rfl
    cases digits _ mem
  exact (List.map_congr_left same).trans (List.map_id' w)

theorem ne_point (digits : Digits w) : ∀ c ∈ w, decide (c ≠ '.') = true := by
  intro c mem
  apply decide_eq_true
  rintro rfl
  cases digits _ mem

theorem cut_digits (digits : Digits w) : (collect w).takeWhile (· ≠ '.') = w ∧
    ((collect w).dropWhile (· ≠ '.')).drop 1 = [] := by
  rw [collect_digits digits, List.takeWhile_eq_self_iff.2 (ne_point digits),
    List.dropWhile_eq_nil_iff.2 (ne_point digits)]
  exact ⟨rfl, rfl⟩

theorem cut_collect (digits : Digits w) {point : Char} (separates : point = '.' ∨ point = ',') :
    (collect (w ++ point :: f)).takeWhile (· ≠ '.') = w ∧
      ((collect (w ++ point :: f)).dropWhile (· ≠ '.')).drop 1 = collect f := by
  have same : collect (w ++ point :: f) = w ++ '.' :: collect f := by
    unfold collect
    rw [List.map_append, List.map_cons]
    change collect w ++ _ = _
    rw [collect_digits digits]
    rcases separates with rfl | rfl <;> rfl
  rw [same, List.takeWhile_append_of_pos (ne_point digits), List.dropWhile_append_of_pos (ne_point digits)]
  simp

theorem digits_of_numeric (numeric : Numeric f) (none : '.' ∉ collect f) : Digits f := by
  intro c mem
  rcases numeric c mem with digit | rfl | rfl
  · exact digit
  · exact (none (List.mem_map.2 ⟨_, mem, rfl⟩)).elim
  · exact (none (List.mem_map.2 ⟨_, mem, rfl⟩)).elim

theorem Numeral.numeric (h : Numeral text b) : Numeric text := by
  cases h with
  | whole _ digits => exact fun c mem => .inl (digits c mem)
  | fraction _ digits separates places =>
    intro c mem
    rcases List.mem_append.1 mem with mem | mem
    · exact .inl (digits c mem)
    · rcases List.mem_cons.1 mem with rfl | mem
      · exact .inr separates
      · exact .inl (places c mem)

theorem Numeral.cut (h : Numeral text b) :
    (collect text).takeWhile (· ≠ '.') ≠ [] ∧ '.' ∉ ((collect text).dropWhile (· ≠ '.')).drop 1 ∧
      b = wholeValue ((collect text).takeWhile (· ≠ '.')) * 10 ^ 9 +
        fractionNanos (((collect text).dropWhile (· ≠ '.')).drop 1) := by
  cases h with
  | whole some digits =>
    obtain ⟨before, after⟩ := cut_digits digits
    rw [before, after]
    exact ⟨some, List.not_mem_nil, billionths_eq (List.forall_mem_nil _)⟩
  | fraction some digits separates places =>
    obtain ⟨before, after⟩ := cut_collect digits separates
    rw [before, after, collect_digits places]
    exact ⟨some, fun mem => absurd rfl (of_decide_eq_true (ne_point places _ mem)), billionths_eq places⟩

theorem Numeric.split (numeric : Numeric text) : Digits text ∨
    ∃ w point f, text = w ++ point :: f ∧ Digits w ∧ (point = '.' ∨ point = ',') ∧ Numeric f := by
  induction text with
  | nil => exact .inl (List.forall_mem_nil _)
  | cons c text ih =>
    obtain ⟨first, rest⟩ := List.forall_mem_cons.1 numeric
    rcases first with digit | separates
    · rcases ih rest with digits | ⟨w, point, f, rfl, digits, separates, rest⟩
      · exact .inl (List.forall_mem_cons.2 ⟨digit, digits⟩)
      · exact .inr ⟨c :: w, point, f, rfl, List.forall_mem_cons.2 ⟨digit, digits⟩, separates, rest⟩
    · exact .inr ⟨[], c, text, rfl, List.forall_mem_nil _, separates, rest⟩

theorem Numeral.of_cut (numeric : Numeric text) (some : (collect text).takeWhile (· ≠ '.') ≠ [])
    (one : '.' ∉ ((collect text).dropWhile (· ≠ '.')).drop 1) :
    Numeral text (wholeValue ((collect text).takeWhile (· ≠ '.')) * 10 ^ 9 +
      fractionNanos (((collect text).dropWhile (· ≠ '.')).drop 1)) := by
  rcases numeric.split with digits | ⟨w, point, f, rfl, digits, separates, rest⟩
  · obtain ⟨before, after⟩ := cut_digits digits
    rw [before] at some
    rw [before, after, ← billionths_eq (List.forall_mem_nil _)]
    exact .whole some digits
  · obtain ⟨before, after⟩ := cut_collect digits separates (f := f)
    rw [before] at some
    rw [after] at one
    have places := digits_of_numeric rest one
    rw [before, after, collect_digits places, ← billionths_eq places]
    exact .fraction some digits separates places

theorem componentNanos_numeral (h : Numeral text b) (unit : 0 < secs) (room : b * secs < limit) :
    componentNanos (collect text) secs = .ok (b * secs) := by
  obtain ⟨some, one, rfl⟩ := h.cut
  rw [Nat.add_mul, Nat.mul_assoc, Nat.mul_comm (10 ^ 9)] at room ⊢
  unfold componentNanos
  simp only
  rw [if_neg, if_pos room]
  rintro (none | two | large)
  · exact some none
  · exact one two
  · have factor : 0 < secs * 10 ^ 9 := Nat.mul_pos unit (by decide)
    have := Nat.le_mul_of_pos_right (wholeValue ((collect text).takeWhile (· ≠ '.'))) factor
    exact absurd room (Nat.not_lt_of_le (Nat.le_trans large (Nat.le_trans this (Nat.le_add_right _ _))))

theorem numeral_of_componentNanos (numeric : Numeric text)
    (h : componentNanos (collect text) secs = .ok n) : ∃ b, Numeral text b ∧ n = b * secs := by
  unfold componentNanos at h
  simp only at h
  split at h
  · cases h
  · rename_i valid
    simp only [not_or] at valid
    split at h
    · cases h
      refine ⟨_, .of_cut numeric valid.1 valid.2.1, ?_⟩
      rw [Nat.add_mul, Nat.mul_assoc, Nat.mul_comm (10 ^ 9)]
    · cases h

end Numbers

section Steps

variable {text number : List Char} {units : List (Char × Nat)} {p q : Progress} {b k n secs : Nat}

theorem toUpper_eq_self {c : Char} (h : ¬ ('a'.val ≤ c.val ∧ c.val ≤ 'z'.val)) : c.toUpper = c := by
  unfold Char.toUpper
  exact dif_neg h

theorem toNat_toUpper {c : Char} (lower : 'a'.val ≤ c.val ∧ c.val ≤ 'z'.val) :
    97 ≤ c.val.toNat ∧ c.val.toNat ≤ 122 ∧ c.toUpper.val.toNat = c.val.toNat - 32 := by
  have value : c.toUpper.val = c.val + ('A'.val - 'a'.val) := by
    unfold Char.toUpper
    rw [dif_pos lower]
  have low : 97 ≤ c.val.toNat := UInt32.le_iff_toNat_le.1 lower.1
  have high : c.val.toNat ≤ 122 := UInt32.le_iff_toNat_le.1 lower.2
  have shift : ('A'.val - 'a'.val).toNat = 2 ^ 32 - 32 := rfl
  rw [value, UInt32.toNat_add, shift]
  omega

theorem toUpper_toUpper (c : Char) : c.toUpper.toUpper = c.toUpper := by
  by_cases lower : 'a'.val ≤ c.val ∧ c.val ≤ 'z'.val
  · obtain ⟨_, high, same⟩ := toNat_toUpper lower
    apply toUpper_eq_self
    rintro ⟨low, _⟩
    have low : 97 ≤ c.toUpper.val.toNat := UInt32.le_iff_toNat_le.1 low
    omega
  · rw [toUpper_eq_self lower, toUpper_eq_self lower]

theorem toUpper_eq_mark_iff {c : Char} : c.toUpper = 'P' ↔ c = 'P' ∨ c = 'p' := by
  constructor
  · intro mark
    by_cases lower : 'a'.val ≤ c.val ∧ c.val ≤ 'z'.val
    · obtain ⟨_, _, same⟩ := toNat_toUpper lower
      have upper : 'P'.val.toNat = 80 := rfl
      rw [mark, upper] at same
      apply Or.inr
      apply Char.ext
      apply UInt32.toNat_inj.1
      change c.val.toNat = 112
      omega
    · rw [toUpper_eq_self lower] at mark
      exact .inl mark
  · rintro (rfl | rfl) <;> decide

theorem step_toUpper (p : Progress) (c : Char) : p.step c.toUpper = p.step c := by
  unfold Progress.step
  rw [toUpper_toUpper]

theorem toUpper_numeric {c : Char} (h : c.isDigit = true ∨ c = '.' ∨ c = ',') : c.toUpper = c := by
  rcases h with digit | rfl | rfl
  · apply toUpper_eq_self
    simp only [Char.isDigit, Bool.and_eq_true, decide_eq_true_eq] at digit
    rintro ⟨low, _⟩
    exact absurd (UInt32.le_trans low digit.2) (by decide)
  · rfl
  · rfl

theorem steps_numeric (numeric : Numeric number) (p : Progress) :
    number.foldlM Progress.step p = .ok { p with number := p.number ++ collect number } := by
  induction number generalizing p with
  | nil => simp [collect]; rfl
  | cons c number ih =>
    obtain ⟨first, rest⟩ := List.forall_mem_cons.1 numeric
    have step : p.step c = .ok { p with number := p.number ++ collect [c] } := by
      unfold Progress.step
      rw [toUpper_numeric first]
      rcases first with digit | rfl | rfl
      · have same : collect [c] = [c] := collect_digits (List.forall_mem_singleton.2 digit)
        rw [if_pos digit, same]
      · rfl
      · rfl
    rw [List.foldlM_cons, step]
    change number.foldlM Progress.step _ = _
    rw [ih rest]
    simp [collect]

theorem steps_append (numeric : Numeric number) (p : Progress) (text : List Char) :
    (number ++ text).foldlM Progress.step p =
      text.foldlM Progress.step { p with number := p.number ++ collect number } := by
  rw [List.foldlM_append, steps_numeric numeric]
  rfl

theorem steps_cons_iff {c : Char} : (c :: text).foldlM Progress.step p = .ok q ↔
    ∃ r, p.step c = .ok r ∧ text.foldlM Progress.step r = .ok q := by
  rw [List.foldlM_cons]
  cases p.step c with
  | error e =>
    constructor
    · rintro ⟨⟩
    · rintro ⟨_, ⟨⟩, _⟩
  | ok r =>
    constructor
    · exact fun later => ⟨r, rfl, later⟩
    · rintro ⟨_, ⟨⟩, later⟩
      exact later

theorem Parts.empty (units : List (Char × Nat)) : Parts units [] 0 0 := by
  induction units with
  | nil => exact .nil
  | cons unit units ih => exact .skip ih

theorem Parts.of_suffix {later : List (Char × Nat)} (h : Parts later text k n) (suffix : later <:+ units) :
    Parts units text k n := by
  obtain ⟨skipped, rfl⟩ := suffix
  induction skipped with
  | nil => exact h
  | cons unit skipped ih => exact .skip ih

theorem Body.of_suffix {later : List (Char × Nat)} (h : Body later text k n) (suffix : later <:+ units) :
    Body units text k n := by
  cases h with
  | date date => exact .date (date.of_suffix suffix)
  | time date time => exact .time (date.of_suffix suffix) time

theorem Body.take {letter : Char} (numeral : Numeral number b) (h : Body units text k n) :
    Body ((letter, secs) :: units) (number ++ letter :: text) (k + 1) (b * secs + n) := by
  cases h with
  | date date => exact .date (.take numeral date)
  | time date time =>
    have body : Body ((letter, secs) :: units) _ _ _ := .time (.take numeral date) time
    rw [List.append_assoc, List.cons_append, Nat.add_right_comm, Nat.add_assoc (b * secs)] at body
    exact body

def Open (p : Progress) (text : List Char) (k n : Nat) : Prop :=
  if p.inTime then Parts (timeUnits.drop (p.rank - 2)) text k n else Body (dateUnits.drop p.rank) text k n

theorem Open.empty (p : Progress) : Open p [] 0 0 := by
  unfold Open
  split
  · exact .empty _
  · exact .date (.empty _)

theorem Open.take {c : Char} {rank : Nat} (known : designator p.inTime c = some (rank, secs))
    (later : p.rank < rank) (numeral : Numeral number b) (rest : Open q text k n)
    (mode : q.inTime = p.inTime) (place : q.rank = rank) :
    Open p (number ++ c :: text) (k + 1) (b * secs + n) := by
  unfold Open at rest ⊢
  rw [mode, place] at rest
  unfold designator at known
  split at known <;> cases known <;> simp only [*, Bool.false_eq_true, if_true, if_false] at rest ⊢
  · have taken : Body (dateUnits.drop 0) _ _ _ := .take numeral rest
    exact taken.of_suffix (List.drop_suffix_drop_left _ (by omega))
  · have taken : Body (dateUnits.drop 1) _ _ _ := .take numeral rest
    exact taken.of_suffix (List.drop_suffix_drop_left _ (by omega))
  · have taken : Parts (timeUnits.drop 0) _ _ _ := .take numeral rest
    exact taken.of_suffix (List.drop_suffix_drop_left _ (by omega))
  · have taken : Parts (timeUnits.drop 1) _ _ _ := .take numeral rest
    exact taken.of_suffix (List.drop_suffix_drop_left _ (by omega))
  · have taken : Parts (timeUnits.drop 2) _ _ _ := .take numeral rest
    exact taken.of_suffix (List.drop_suffix_drop_left _ (by omega))

theorem Open.mark (before : p.inTime = false) (rest : Open q text k n) (after : q.inTime = true) :
    Open p ('T' :: text) k n := by
  unfold Open at rest ⊢
  rw [if_pos after] at rest
  rw [if_neg (by simp [before])]
  have body := Body.time (.empty (dateUnits.drop p.rank)) (rest.of_suffix (List.drop_suffix _ _))
  rwa [Nat.zero_add, Nat.zero_add] at body

theorem step_mark (p : Progress) : p.step 'T' =
    if p.inTime = true ∨ p.number ≠ [] then .error (.outOfOrder 'T') else .ok { p with inTime := true } := rfl

theorem exists_numeric (text : List Char) : ∃ number rest, text = number ++ rest ∧ Numeric number ∧
    ∀ c tail, rest = c :: tail → ¬ (c.isDigit = true ∨ c = '.' ∨ c = ',') := by
  induction text with
  | nil => exact ⟨[], [], rfl, List.forall_mem_nil _, by rintro _ _ ⟨⟩⟩
  | cons c text ih =>
    by_cases numeric : c.isDigit = true ∨ c = '.' ∨ c = ','
    · obtain ⟨number, rest, rfl, all, other⟩ := ih
      exact ⟨c :: number, rest, rfl, List.forall_mem_cons.2 ⟨numeric, all⟩, other⟩
    · refine ⟨[], c :: text, rfl, List.forall_mem_nil _, ?_⟩
      rintro _ _ ⟨⟩
      exact numeric

theorem exists_of_step {c : Char} (upper : c.toUpper = c) (other : ¬ (c.isDigit = true ∨ c = '.' ∨ c = ','))
    (step : p.step c = .ok q) :
    (c = 'T' ∧ p.inTime = false ∧ p.number = [] ∧ q = { p with inTime := true }) ∨
      ∃ rank secs nanos, designator p.inTime c = some (rank, secs) ∧ p.rank < rank ∧
        componentNanos p.number secs = .ok nanos ∧ p.total + nanos < limit ∧
        q = { p with total := p.total + nanos, rank := rank, number := [] } := by
  by_cases mark : c = 'T'
  · subst mark
    rw [step_mark] at step
    split at step
    · cases step
    · rename_i outside
      simp only [not_or, Bool.not_eq_true, ne_eq, not_not] at outside
      cases step
      exact .inl ⟨rfl, outside.1, outside.2, rfl⟩
  · cases known : designator p.inTime c with
    | none =>
      simp only [not_or] at other
      unfold Progress.step at step
      simp [upper, known, mark, other] at step
    | some unit =>
      obtain ⟨rank, secs⟩ := unit
      rw [← upper] at known
      rw [step_of_designator known] at step
      split at step
      · cases step
      · rename_i later
        split at step
        · cases step
        · rename_i nanos component
          split at step
          · rename_i room
            cases step
            exact .inr ⟨rank, secs, nanos, rfl, Nat.lt_of_not_le later, component, room, rfl⟩
          · cases step

theorem open_of_steps (upper : ∀ c ∈ text, c.toUpper = c) (begun : p.number = [])
    (steps : text.foldlM Progress.step p = .ok q) (done : q.number = []) :
    ∃ k n, Open p text k n ∧ q.total = p.total + n ∧ (k = 0 → q.rank = p.rank) := by
  induction length : text.length using Nat.strong_induction_on generalizing text p with
  | h size ih =>
    obtain ⟨number, rest, rfl, numeric, other⟩ := exists_numeric text
    rw [steps_append numeric, begun, List.nil_append] at steps
    cases rest with
    | nil =>
      cases steps
      have none : number = [] := List.map_eq_nil_iff.1 done
      subst none
      exact ⟨0, 0, .empty p, rfl, fun _ => rfl⟩
    | cons c rest =>
      have shorter : rest.length < size := by
        simp only [List.length_append, List.length_cons] at length
        omega
      have upper_rest : ∀ c ∈ rest, c.toUpper = c := fun c mem =>
        upper c (List.mem_append_right _ (List.mem_cons_of_mem _ mem))
      have upper_c : c.toUpper = c := upper c (List.mem_append_right _ List.mem_cons_self)
      obtain ⟨r, step, later⟩ := steps_cons_iff.1 steps
      rcases exists_of_step upper_c (other c rest rfl) step with
        ⟨rfl, outside, none, rfl⟩ | ⟨rank, secs, nanos, known, after, component, _, rfl⟩
      · have none : number = [] := List.map_eq_nil_iff.1 none
        subst none
        obtain ⟨k, n, opened, total, same⟩ := ih rest.length shorter upper_rest rfl later rfl
        exact ⟨k, n, .mark outside opened rfl, total, same⟩
      · obtain ⟨k, n, opened, total, _⟩ := ih rest.length shorter upper_rest rfl later rfl
        obtain ⟨b, numeral, rfl⟩ := numeral_of_componentNanos numeric component
        refine ⟨k + 1, b * secs + n, .take known after numeral opened rfl rfl, ?_, fun zero => by cases zero⟩
        rw [total, Nat.add_assoc]

def Ranked (inTime : Bool) : Nat → List (Char × Nat) → Prop
  | _, [] => True
  | before, (letter, secs) :: units =>
    ∃ rank, designator inTime letter = some (rank, secs) ∧ before < rank ∧ Ranked inTime rank units

theorem Ranked.mono {inTime : Bool} {before rank : Nat} (h : Ranked inTime rank units)
    (le : before ≤ rank) : Ranked inTime before units := by
  cases units with
  | nil => trivial
  | cons unit units =>
    obtain ⟨place, known, later, rest⟩ := h
    exact ⟨place, known, Nat.lt_of_le_of_lt le later, rest⟩

theorem ranked_dateUnits : Ranked false 0 dateUnits :=
  ⟨1, rfl, by decide, 2, rfl, by decide, trivial⟩

theorem ranked_timeUnits : Ranked true 2 timeUnits :=
  ⟨3, rfl, by decide, 4, rfl, by decide, 5, rfl, by decide, trivial⟩

theorem unitSecs_pos {inTime : Bool} {c : Char} {rank : Nat}
    (h : designator inTime c = some (rank, secs)) : 0 < secs := by
  unfold designator at h
  split at h <;> cases h <;> decide

theorem designator_toUpper {inTime : Bool} {c : Char} {rank : Nat}
    (h : designator inTime c = some (rank, secs)) : c.toUpper = c := by
  unfold designator at h
  split at h <;> cases h <;> rfl

theorem steps_of_parts (h : Parts units text k n) (ranked : Ranked p.inTime p.rank units)
    (begun : p.number = []) (room : p.total + n < limit) :
    ∃ rank, text.foldlM Progress.step p = .ok { p with total := p.total + n, rank := rank } ∧
      p.rank + k ≤ rank ∧ (rank = p.rank ∨ ∃ c secs, designator p.inTime c = some (rank, secs)) := by
  induction h generalizing p with
  | nil => exact ⟨p.rank, rfl, Nat.le_refl _, .inl rfl⟩
  | skip _ ih =>
    obtain ⟨rank, _, later, rest⟩ := ranked
    exact ih (rest.mono (Nat.le_of_lt later)) begun room
  | @take letter secs b k n units number text numeral _ ih =>
    obtain ⟨rank, known, later, rest⟩ := ranked
    have component := componentNanos_numeral numeral (unitSecs_pos known) (by omega)
    have step : Progress.step { p with number := p.number ++ collect number } letter =
        .ok { p with total := p.total + b * secs, rank := rank, number := [] } := by
      have upper : designator p.inTime letter.toUpper = some (rank, secs) := by
        rw [designator_toUpper known]
        exact known
      rw [step_of_designator (p := { p with number := p.number ++ collect number }) upper]
      simp only [begun, List.nil_append, component]
      rw [if_neg (Nat.not_le_of_lt later), if_pos (by omega)]
    obtain ⟨last, steps, more, place⟩ :=
      ih (p := { p with total := p.total + b * secs, rank := rank, number := [] }) rest rfl
        (by simp only; omega)
    refine ⟨last, ?_, ?_, ?_⟩
    · rw [steps_append numeral.numeric]
      apply steps_cons_iff.2
      refine ⟨_, step, ?_⟩
      rw [steps]
      simp only [begun, Nat.add_assoc]
    · have more : rank + k ≤ last := more
      omega
    · rcases place with rfl | place
      · exact .inr ⟨letter, secs, known⟩
      · exact .inr place

theorem rank_of_date {c : Char} {rank : Nat} (h : designator false c = some (rank, secs)) : rank ≤ 2 := by
  unfold designator at h
  split at h <;> cases h <;> first | decide | contradiction

theorem steps_of_body (h : Body dateUnits text k n) (room : n < limit) :
    ∃ q, text.foldlM Progress.step {} = .ok q ∧ q.number = [] ∧ q.total = n ∧ k ≤ q.rank := by
  cases h with
  | date date =>
    obtain ⟨rank, steps, more, _⟩ := steps_of_parts date (p := {}) ranked_dateUnits rfl (by simpa using room)
    exact ⟨_, steps, rfl, Nat.zero_add n, by simpa using more⟩
  | @time before after k m l n date time =>
    obtain ⟨rank, steps, more, place⟩ :=
      steps_of_parts date (p := {}) ranked_dateUnits rfl (by simp only; omega)
    have early : rank ≤ 2 := by
      rcases place with rfl | ⟨c, secs, known⟩
      · exact Nat.zero_le 2
      · exact rank_of_date known
    obtain ⟨last, later, more_later, _⟩ :=
      steps_of_parts time (p := { total := 0 + m, inTime := true, rank := rank })
        (ranked_timeUnits.mono early) rfl (by simp only; omega)
    refine ⟨{ total := 0 + m + n, inTime := true, rank := last }, ?_, rfl, ?_, ?_⟩
    · rw [List.foldlM_append, steps]
      change ('T' :: after).foldlM Progress.step { total := 0 + m, rank := rank } = _
      apply steps_cons_iff.2
      exact ⟨_, rfl, later⟩
    · simp
    · simp only at more more_later ⊢
      omega

end Steps

theorem finish_eq_ok_iff {p : Progress} {d : Duration} :
    p.finish = .ok d ↔ p.number = [] ∧ p.rank ≠ 0 ∧ p.total = d.nanos := by
  unfold Progress.finish
  constructor
  · intro h
    split at h
    · cases h
    · rename_i done
      split at h
      · cases h
      · rename_i some
        split at h
        · rename_i found
          cases h
          exact ⟨not_not.1 done, some, (Duration.nanos_of_ofNanos? found).symm⟩
        · cases h
  · rintro ⟨done, some, same⟩
    rw [if_neg (not_not.2 done), if_neg some, same, Duration.ofNanos?_nanos]

theorem nanos_lt_limit (d : Duration) : d.nanos < limit :=
  Nat.lt_trans d.nanos_lt (by decide)

theorem written_of_steps {text : List Char} (upper : ∀ c ∈ text, c.toUpper = c) {q : Progress}
    (steps : text.foldlM Progress.step {} = .ok q) {d : Duration} (finished : q.finish = .ok d) :
    Written ('P' :: text) d.nanos := by
  obtain ⟨done, some, total⟩ := finish_eq_ok_iff.1 finished
  obtain ⟨k, n, opened, sum, zero⟩ := open_of_steps upper rfl steps done
  have nanos : d.nanos = n := by
    rw [← total, sum]
    exact Nat.zero_add n
  rw [nanos]
  exact .intro opened (Nat.pos_of_ne_zero fun none => some (zero none))

theorem steps_of_written {text : List Char} {d : Duration} (written : Written ('P' :: text) d.nanos) :
    ∃ q, text.foldlM Progress.step {} = .ok q ∧ q.finish = .ok d := by
  obtain ⟨body, some⟩ := written
  obtain ⟨q, steps, done, total, more⟩ := steps_of_body body (nanos_lt_limit d)
  exact ⟨q, steps, finish_eq_ok_iff.2 ⟨done, by omega, total⟩⟩

theorem read_eq_ok_iff (text : String) (d : Duration) :
    read text = .ok d ↔ Written (plain text) d.nanos := by
  unfold read readChars plain
  cases Text.strip text.toList with
  | nil =>
    constructor
    · rintro ⟨⟩
    · rintro ⟨⟩
  | cons mark rest =>
    have same : (rest.map Char.toUpper).foldlM Progress.step {} = rest.foldlM Progress.step {} := by
      rw [List.foldlM_map]
      simp only [step_toUpper]
    simp only [List.map_cons]
    rw [← same]
    constructor
    · intro h
      split at h
      · rename_i begins
        rw [toUpper_eq_mark_iff.2 begins]
        split at h
        · rename_i q steps
          apply written_of_steps _ steps h
          intro c mem
          obtain ⟨c, _, rfl⟩ := List.mem_map.1 mem
          exact toUpper_toUpper c
        · cases h
      · cases h
    · intro h
      have first : mark.toUpper = 'P' := by
        generalize mark.toUpper = c at h
        cases h
        rfl
      rw [first] at h
      obtain ⟨q, steps, finished⟩ := steps_of_written h
      rw [if_pos (toUpper_eq_mark_iff.1 first), steps]
      exact finished

/-- The reader accepts what is written as a duration, and no other text, and reads what it comes to. It does so
in words of fixed size too. -/
theorem read_written (text : String) :
    (∀ d, read text = .ok d ↔ ∃ total, Written (plain text) total ∧ total < 2 ^ 64 * 10 ^ 9 ∧
      d.secs = total / 10 ^ 9 ∧ d.subsecNanos = total % 10 ^ 9) ∧
    readWithin text = some (read text) := by
  refine ⟨fun d => ?_, readWithin_eq text⟩
  rw [read_eq_ok_iff]
  constructor
  · exact fun written => ⟨d.nanos, written, d.nanos_lt, rfl, rfl⟩
  · rintro ⟨total, written, _, secs, rest⟩
    rw [d.nanos_eq, secs, rest, Nat.div_add_mod']
    exact written

end GameDay.Duration.Iso8601
