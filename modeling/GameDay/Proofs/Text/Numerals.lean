import GameDay.Text.Json
import Mathlib.Data.List.TakeWhile

namespace GameDay.Text.Json

def isDigits (cs : List Char) : Bool := cs ≠ [] && cs.all Char.isDigit

def isWhole (cs : List Char) : Bool := isDigits cs && (cs.head? ≠ some '0' || cs.length = 1)

def isFraction : List Char → Bool
  | [] => true
  | c :: cs => c = '.' && isDigits cs

def isMark (c : Char) : Bool := c = 'e' || c = 'E'

def isExponent : List Char → Bool
  | [] => true
  | c :: cs => isMark c && (isDigits cs || (cs.head? = some '-' || cs.head? = some '+') && isDigits cs.tail)

def isUnsigned (cs : List Char) : Bool :=
  let rest := cs.dropWhile Char.isDigit
  isWhole (cs.takeWhile Char.isDigit) && isFraction (rest.takeWhile (!isMark ·)) &&
    isExponent (rest.dropWhile (!isMark ·))

def isNumeral (cs : List Char) : Bool := isUnsigned (if cs.head? = some '-' then cs.tail else cs)

section Grammar

variable {w f x : List Char}

theorem isDigits_iff {cs : List Char} : isDigits cs = true ↔ cs ≠ [] ∧ ∀ c ∈ cs, c.isDigit = true := by
  simp [isDigits]

theorem digits_of_isWhole (whole : isWhole w = true) : isDigits w = true := by
  simp only [isWhole, Bool.and_eq_true] at whole
  exact whole.1

theorem not_isMark_of_isDigit {c : Char} (h : c.isDigit = true) : isMark c = false := by
  rw [Bool.eq_false_iff]
  intro mark
  simp only [isMark, Bool.or_eq_true, decide_eq_true_eq] at mark
  rcases mark with rfl | rfl <;> exact absurd h (by decide)

theorem not_isDigit_of_isMark {c : Char} (h : isMark c = true) : c.isDigit = false := by
  rw [Bool.eq_false_iff]
  intro digit
  rw [not_isMark_of_isDigit digit] at h
  cases h

theorem not_isMark_of_isFraction (fraction : isFraction f = true) : ∀ c ∈ f, (!isMark c) = true := by
  cases f with
  | nil => simp
  | cons point digits =>
    simp only [isFraction, Bool.and_eq_true, decide_eq_true_eq, isDigits_iff] at fraction
    obtain ⟨rfl, -, digits⟩ := fraction
    intro c hc
    rcases List.mem_cons.1 hc with rfl | hc
    · decide
    · simp [not_isMark_of_isDigit (digits c hc)]

theorem head?_isExponent (exponent : isExponent x = true) : ∀ c ∈ x.head?, isMark c = true := by
  cases x with
  | nil => simp
  | cons c cs =>
    simp only [isExponent, Bool.and_eq_true] at exponent
    simpa using exponent.1

theorem takeWhile_stops {α : Type} {p : α → Bool} {a b : List α} (run : ∀ c ∈ a, p c = true)
    (stop : ∀ c ∈ b.head?, p c = false) : (a ++ b).takeWhile p = a ∧ (a ++ b).dropWhile p = b := by
  rw [List.takeWhile_append_of_pos run, List.dropWhile_append_of_pos run]
  cases b with
  | nil => simp
  | cons c b =>
    have stop : p c = false := stop c rfl
    simp [stop]

theorem isUnsigned_append (whole : isWhole w = true) (fraction : isFraction f = true)
    (exponent : isExponent x = true) : isUnsigned (w ++ (f ++ x)) = true := by
  have ends : ∀ c ∈ (f ++ x).head?, c.isDigit = false := by
    cases f with
    | nil => exact fun c hc => not_isDigit_of_isMark (head?_isExponent exponent c hc)
    | cons point digits =>
      simp only [isFraction, Bool.and_eq_true, decide_eq_true_eq] at fraction
      simp [fraction.1]
  have marked : ∀ c ∈ x.head?, (!isMark c) = false := fun c hc => by
    simp [head?_isExponent exponent c hc]
  obtain ⟨first, rest⟩ := takeWhile_stops (isDigits_iff.1 (digits_of_isWhole whole)).2 ends
  obtain ⟨second, third⟩ := takeWhile_stops (not_isMark_of_isFraction fraction) marked
  simp only [isUnsigned, first, rest, second, third, whole, fraction, exponent, Bool.and_true]

theorem isNumeral_signed (negative : Bool) (whole : isWhole w = true) (fraction : isFraction f = true)
    (exponent : isExponent x = true) :
    isNumeral ((Decimal.signText negative).toList ++ (w ++ (f ++ x))) = true := by
  have unsigned := isUnsigned_append whole fraction exponent
  cases negative with
  | true => simpa [isNumeral, Decimal.signText] using unsigned
  | false =>
    obtain ⟨some, digits⟩ := isDigits_iff.1 (digits_of_isWhole whole)
    obtain ⟨c, cs, rfl⟩ := List.exists_cons_of_ne_nil some
    have plain : c ≠ '-' := by
      rintro rfl
      exact absurd (digits '-' List.mem_cons_self) (by decide)
    simpa [isNumeral, Decimal.signText, plain] using unsigned

end Grammar

section Digits

theorem isDigits_toDigits (n : Nat) : isDigits (Nat.toDigits 10 n) = true :=
  isDigits_iff.2 ⟨Nat.toDigits_ne_nil, fun _ => Nat.isDigit_of_mem_toDigits (by decide) (by decide)⟩

theorem head?_toDigits {n : Nat} (positive : 0 < n) : (Nat.toDigits 10 n).head? ≠ some '0' := by
  induction n using Nat.strong_induction_on with
  | _ n ih =>
    by_cases one : n < 10
    · rw [Nat.toDigits_of_lt_base one]
      revert one positive
      have small : ∀ n < 10, 0 < n → [n.digitChar].head? ≠ some '0' := by decide
      exact fun positive one => small n one positive
    · rw [Nat.toDigits_of_base_le (by decide) (by omega), List.head?_append, ne_eq,
        Option.or_eq_some_iff, List.head?_eq_none_iff]
      rintro (zero | ⟨none, -⟩)
      · exact ih (n / 10) (by omega) (by omega) zero
      · exact Nat.toDigits_ne_nil none

theorem isWhole_toDigits (n : Nat) : isWhole (Nat.toDigits 10 n) = true := by
  rw [isWhole, isDigits_toDigits, Bool.true_and]
  rcases Nat.eq_zero_or_pos n with rfl | positive
  · decide
  · simp [head?_toDigits positive]

theorem isWhole_of_head? {cs : List Char} (digits : isDigits cs = true) (head : cs.head? ≠ some '0') :
    isWhole cs = true := by
  simp [isWhole, digits, head]

theorem isWhole_take {cs : List Char} {k : Nat} (digits : isDigits cs = true) (enough : 0 < k)
    (head : cs.head? ≠ some '0') : isWhole (cs.take k) = true := by
  obtain ⟨nonempty, digits⟩ := isDigits_iff.1 digits
  refine isWhole_of_head? (isDigits_iff.2 ⟨?_, fun c hc => digits c (List.mem_of_mem_take hc)⟩) ?_
  · simpa [nonempty] using enough.ne'
  · rwa [List.head?_take, if_neg enough.ne']

theorem isExponent_mark (k : Int) : isExponent ('e' :: (toString k).toList) = true := by
  have mark : isMark 'e' = true := by decide
  cases k with
  | ofNat n =>
    change isExponent ('e' :: (toString n).toList) = true
    simp [isExponent, mark, isDigits_toDigits]
  | negSucc n =>
    change isExponent ('e' :: ("-" ++ toString (n + 1)).toList) = true
    simp [isExponent, mark, isDigits_toDigits, String.toList_append]

end Digits

section Reals

variable {d : Decimal}

theorem onGrid?_digits {i : Decimal.Interval} {tie : Decimal.Tie} {grid : Int}
    (h : i.onGrid? tie grid = some d) : 0 < d.digits := by
  unfold Decimal.Interval.onGrid? at h
  split at h
  rename_i binary decimal _
  extract_lets value inside below above belowIn aboveIn excess nearer at h
  split at h
  · rename_i taken
    cases h
    simp only [belowIn, Bool.and_eq_true, decide_eq_true_eq] at taken
    exact taken.1.1
  · split at h
    · cases h
      exact Nat.succ_pos _
    · cases h

theorem shortest_digits (tie : Decimal.Tie) {m : Nat} (e : Int) (positive : 0 < m) :
    0 < (Decimal.shortest tie m e).digits := by
  simp only [Decimal.shortest]
  cases found : (List.range 20).findSome? fun k : Nat => (Decimal.Interval.ofFinite m e).onGrid? tie
    (Decimal.greatestGrid (Decimal.Interval.ofFinite m e) - k) with
  | none => exact positive
  | some d =>
    obtain ⟨k, -, onGrid⟩ := List.exists_of_findSome?_eq_some found
    exact onGrid?_digits onGrid

theorem positional_whole (positive : 0 < d.digits) (integral : 0 ≤ d.exponent) :
    isWhole d.positional.toList = true := by
  rw [Decimal.positional, if_pos integral, String.toList_ofList]
  refine isWhole_of_head? (isDigits_iff.2 ⟨?_, ?_⟩) ?_
  · simp [Nat.toDigits_ne_nil]
  · have digits := (isDigits_iff.1 (isDigits_toDigits d.digits)).2
    intro c hc
    rcases List.mem_append.1 hc with hc | hc
    · exact digits c (by simpa using hc)
    · rw [List.eq_of_mem_replicate hc]
      decide
  · have first := head?_toDigits positive
    obtain ⟨c, cs, written⟩ := List.exists_cons_of_ne_nil (Nat.toDigits_ne_nil (n := d.digits) (b := 10))
    simpa [written] using first

theorem isWhole_padded {ds : List Char} (written : isDigits ds = true) (head : ds.head? ≠ some '0')
    (places : Nat) :
    let padded := List.replicate (places + 1 - ds.length) '0' ++ ds
    isWhole (padded.take (padded.length - places)) = true := by
  intro padded
  by_cases long : places < ds.length
  · have plain : padded = ds := by simp [padded, Nat.sub_eq_zero_of_le long]
    rw [plain]
    exact isWhole_take written (by omega) head
  · have zero : padded = '0' :: (List.replicate (places - ds.length) '0' ++ ds) := by
      have more : places + 1 - ds.length = (places - ds.length) + 1 := by omega
      simp [padded, more, List.replicate_succ]
    have cut : padded.length - places = 1 := by
      simp only [padded, List.length_append, List.length_replicate]
      omega
    rw [cut, zero]
    rfl

theorem positional_fraction (positive : 0 < d.digits) (fractional : d.exponent < 0) :
    ∃ w f, d.positional.toList = w ++ '.' :: f ∧ isWhole w = true ∧ isDigits f = true := by
  rw [Decimal.positional, if_neg (by omega)]
  simp only [Nat.toString_eq_ofList_toDigits, String.toList_ofList]
  have some : 0 < (-d.exponent).toNat := by omega
  generalize (-d.exponent).toNat = places at some
  have digits := (isDigits_iff.1 (isDigits_toDigits d.digits)).2
  refine ⟨_, _, rfl, isWhole_padded (isDigits_toDigits _) (head?_toDigits positive) places, ?_⟩
  refine isDigits_iff.2 ⟨?_, ?_⟩
  · rw [ne_eq, List.drop_eq_nil_iff, List.length_append, List.length_replicate]
    omega
  · intro c hc
    rcases List.mem_append.1 (List.mem_of_mem_drop hc) with hc | hc
    · rw [List.eq_of_mem_replicate hc]
      decide
    · exact digits c hc

theorem scientific_parts (positive : 0 < d.digits) :
    ∃ w f x, d.scientific.toList = w ++ (f ++ x) ∧ isWhole w = true ∧ isFraction f = true ∧
      isExponent x = true := by
  simp only [Decimal.scientific, Nat.toString_eq_ofList_toDigits, String.toList_append, String.toList_ofList]
  obtain ⟨c, cs, written⟩ := List.exists_cons_of_ne_nil (Nat.toDigits_ne_nil (n := d.digits) (b := 10))
  have digits := (isDigits_iff.1 (isDigits_toDigits d.digits)).2
  have head := head?_toDigits positive
  rw [written] at digits head ⊢
  refine ⟨[c], if cs = [] then [] else '.' :: cs, _, by simp; rfl, ?_, ?_, isExponent_mark _⟩
  · have all : isDigits (c :: cs) = true := isDigits_iff.2 ⟨by simp, digits⟩
    exact isWhole_take (k := 1) all (by decide) head
  · split
    · rfl
    · rename_i some
      simp only [isFraction, decide_true, Bool.true_and]
      exact isDigits_iff.2 ⟨some, fun c hc => digits c (List.mem_cons_of_mem _ hc)⟩

theorem isNumeral_document (negative : Bool) (m : Nat) (e : Int) :
    isNumeral (Decimal.document negative m e).toList = true := by
  suffices h : ∃ w f x, (Decimal.document negative m e).toList =
      (Decimal.signText negative).toList ++ (w ++ (f ++ x)) ∧
      isWhole w = true ∧ isFraction f = true ∧ isExponent x = true by
    obtain ⟨w, f, x, written, whole, fraction, exponent⟩ := h
    rw [written]
    exact isNumeral_signed negative whole fraction exponent
  simp only [Decimal.document, String.toList_append, List.append_cancel_left_eq]
  split
  · exact ⟨['0'], ['.', '0'], [], rfl, by decide, by decide, by decide⟩
  · rename_i nonzero
    have positive := shortest_digits .even e (Nat.pos_of_ne_zero nonzero)
    generalize Decimal.shortest .even m e = d at positive
    split
    · rename_i integral
      refine ⟨_, ['.', '0'], [], ?_, positional_whole positive integral.1, by decide, by decide⟩
      simp [String.toList_append]
    · split
      · rename_i fractional
        obtain ⟨w, f, written, whole, digits⟩ := positional_fraction positive fractional.1
        exact ⟨w, '.' :: f, [], by simp [written], whole, by simp [isFraction, digits], by decide⟩
      · exact scientific_parts positive

end Reals

end GameDay.Text.Json
