import GameDay.Proofs.Duration.Brief
import GameDay.Report.Layout

/-!
Rows of the tables in a report, as they can be read again. The names in a row may be of any length and may hold
anything, so its number is read from its beginning and its result from its end.
-/

namespace GameDay.Report

open Text (column)
open Text.Json (takeWhile_stops isDigits_iff isDigits_toDigits)

def numberOf (row : String) : Nat := Nat.ofDigitChars 10 ((row.toList.drop 2).takeWhile Char.isDigit) 0

def resultOf (row : String) : String :=
  String.ofList ((row.toList.reverse.dropWhile (!·.isUpper)).takeWhile Char.isUpper).reverse

def errorMark : List Char := "       -> ".toList

def errorOf? (line : String) : Option String :=
  if line.toList.take 10 = errorMark then some (String.ofList (line.toList.drop 10)) else none

def kindOf? (row : String) : Option TargetKind :=
  TargetKind.ofShortName? (String.ofList ((row.toList.drop 2).takeWhile (· ≠ ' ')))

def countOf (row : String) : Nat := Nat.ofDigitChars 10 (row.toList.reverse.takeWhile Char.isDigit).reverse 0

structure Row (number : Nat) (success : Bool) (row : String) : Prop where
  front : ∃ rest, row.toList = ' ' :: ' ' :: (Nat.toDigits 10 number ++ ' ' :: rest)
  back : ∃ (front : String) (width : Nat) (d : Duration),
    row = front ++ " " ++ column width (outcome success) ++ " " ++ d.brief

section Reading

variable {number : Nat} {success : Bool} {row : String}

theorem toList_column (width : Nat) (s : String) :
    (column width s).toList = s.toList ++ List.replicate (width - s.length) ' ' := by
  rw [column, String.toList_append, String.toList_ofList]

theorem Row.numberOf_eq (h : Row number success row) : numberOf row = number := by
  obtain ⟨rest, written⟩ := h.front
  have digits := (isDigits_iff.1 (isDigits_toDigits number)).2
  obtain ⟨taken, -⟩ := takeWhile_stops (b := ' ' :: rest) digits (by simp)
  rw [numberOf, written, List.drop_succ_cons, List.drop_succ_cons, List.drop_zero, taken]
  exact Nat.ofDigitChars_ten_toDigits

theorem Row.errorOf?_eq (h : Row number success row) : errorOf? row = none := by
  obtain ⟨rest, written⟩ := h.front
  obtain ⟨some, digits⟩ := isDigits_iff.1 (isDigits_toDigits number)
  obtain ⟨c, cs, first⟩ := List.exists_cons_of_ne_nil some
  have third : errorMark = ' ' :: ' ' :: ' ' :: "    -> ".toList := by decide
  refine if_neg fun marked => ?_
  rw [written, first, third, List.cons_append] at marked
  simp only [List.take_succ_cons, List.cons.injEq] at marked
  have digit := digits c (by simp [first])
  rw [marked.2.2.1] at digit
  exact absurd digit (by decide)

theorem Row.ne_empty (h : Row number success row) : row ≠ "" := by
  obtain ⟨rest, written⟩ := h.front
  rintro rfl
  cases written

theorem not_isUpper_brief (d : Duration) : ∀ c ∈ d.brief.toList, c.isUpper = false := by
  have units : ∀ c ∈ ['m', 's', '.', ' '], c.isUpper = false := by simp
  intro c mem
  rcases (Duration.Brief.reads_brief d).characters c mem with digit | unit
  · have low : c.val ≤ '9'.val := of_decide_eq_true (Bool.and_eq_true_iff.1 digit).2
    refine Bool.eq_false_iff.2 fun upper => ?_
    have high : 'A'.val ≤ c.val := (of_decide_eq_true upper).1
    exact absurd (UInt32.le_trans high low) (by decide)
  · exact units c unit

theorem Row.resultOf_eq (h : Row number success row) : resultOf row = outcome success := by
  obtain ⟨front, width, d, rfl⟩ := h.back
  -- Neither the duration nor the blanks before it have capital letters.
  have passed : ∀ c ∈ d.brief.toList.reverse ++ ' ' :: List.replicate (width - (outcome success).length) ' ',
      (!c.isUpper) = true := by
    intro c mem
    rw [Bool.not_eq_true']
    rcases List.mem_append.1 mem with mem | mem
    · exact not_isUpper_brief d c (List.mem_reverse.1 mem)
    · rw [← List.replicate_succ] at mem
      rw [List.eq_of_mem_replicate mem]
      rfl
  have capitals : ∀ c ∈ (outcome success).toList.reverse, c.isUpper = true := by
    cases success <;> simp [outcome]
  have last : ∀ c ∈ ((outcome success).toList.reverse ++ ' ' :: front.toList.reverse).head?, (!c.isUpper) = false := by
    cases success <;> simp [outcome]
  have written : (front ++ " " ++ column width (outcome success) ++ " " ++ d.brief).toList.reverse =
      (d.brief.toList.reverse ++ ' ' :: List.replicate (width - (outcome success).length) ' ') ++
        ((outcome success).toList.reverse ++ ' ' :: front.toList.reverse) := by
    simp [toList_column]
  obtain ⟨-, word⟩ := takeWhile_stops passed last
  obtain ⟨result, -⟩ := takeWhile_stops (b := ' ' :: front.toList.reverse) capitals (by simp)
  rw [resultOf, written, word, result, List.reverse_reverse, String.ofList_toList]

theorem errorOf?_mark (e : String) : errorOf? ("       -> " ++ e) = some e := by
  have length : errorMark.length = 10 := rfl
  have marked : ("       -> " ++ e).toList = errorMark ++ e.toList := String.toList_append
  rw [errorOf?, marked, ← length, List.take_left, if_pos rfl, List.drop_left, String.ofList_toList]

theorem errorLine_ne_empty (e : String) : "       -> " ++ e ≠ "" := by
  intro empty
  have read := errorOf?_mark e
  rw [empty] at read
  cases read

end Reading

section Writing

def executionRow (number : Nat) (r : ExecutionRecord) : String :=
  executionLine (toString number) r.skill r.target (outcome r.success) r.duration.brief

def rollbackRow (number : Nat) (r : RollbackRecord) : String :=
  rollbackLine (toString number) r.skill (outcome r.success) r.duration.brief

theorem front_of_column (width : Nat) (name rest : String) :
    ∃ more, ("  " ++ column width name ++ " " ++ rest).toList = ' ' :: ' ' :: (name.toList ++ ' ' :: more) := by
  have blanks (k : Nat) (cs : List Char) : List.replicate k ' ' ++ ' ' :: cs = ' ' :: (List.replicate k ' ' ++ cs) := by
    rw [← List.singleton_append, ← List.append_assoc, ← List.replicate_succ', List.replicate_succ]
    rfl
  refine ⟨List.replicate (width - name.length) ' ' ++ rest.toList, ?_⟩
  simp [toList_column, blanks]

theorem executionRow_row (number : Nat) (r : ExecutionRecord) :
    Row number r.success (executionRow number r) := by
  constructor
  · obtain ⟨more, front⟩ := front_of_column 4 (toString number) (column 28 r.skill ++ " " ++ column 40 r.target ++ " " ++
      column 8 (outcome r.success) ++ " " ++ r.duration.brief)
    rw [Duration.Brief.toList_toString] at front
    exact ⟨more, by rw [← front]; simp only [executionRow, executionLine, String.append_assoc]⟩
  · exact ⟨_, 8, r.duration, rfl⟩

theorem rollbackRow_row (number : Nat) (r : RollbackRecord) : Row number r.success (rollbackRow number r) := by
  constructor
  · obtain ⟨more, front⟩ := front_of_column 4 (toString number) (column 25 r.skill ++ " " ++
      column 10 (outcome r.success) ++ " " ++ r.duration.brief)
    rw [Duration.Brief.toList_toString] at front
    exact ⟨more, by rw [← front]; simp only [rollbackRow, rollbackLine, String.append_assoc]⟩
  · exact ⟨_, 10, r.duration, rfl⟩

theorem kindOf?_countLine (k : TargetKind) (count : String) : kindOf? (countLine k.shortName count) = some k := by
  obtain ⟨more, front⟩ := front_of_column 15 k.shortName count
  have word : ∀ c ∈ k.shortName.toList, decide (c ≠ ' ') = true := by
    cases k <;> simp [TargetKind.shortName]
  obtain ⟨taken, -⟩ := takeWhile_stops (b := ' ' :: more) word (by simp)
  rw [kindOf?, countLine, front, List.drop_succ_cons, List.drop_succ_cons, List.drop_zero, taken,
    String.ofList_toList]
  cases k <;> decide

theorem countLine_ne_empty (kind count : String) : countLine kind count ≠ "" := by
  obtain ⟨more, front⟩ := front_of_column 15 kind count
  intro empty
  rw [countLine] at empty
  rw [empty] at front
  cases front

theorem countOf_countLine (kind : String) (n : Nat) : countOf (countLine kind (toString n)) = n := by
  have digits : ∀ c ∈ (Nat.toDigits 10 n).reverse, c.isDigit = true := fun c mem =>
    (isDigits_iff.1 (isDigits_toDigits n)).2 c (List.mem_reverse.1 mem)
  obtain ⟨taken, -⟩ := takeWhile_stops (b := ' ' :: ("  " ++ column 15 kind).toList.reverse) digits (by simp)
  have written : (countLine kind (toString n)).toList.reverse =
      (Nat.toDigits 10 n).reverse ++ ' ' :: ("  " ++ column 15 kind).toList.reverse := by
    simp [countLine]
  rw [countOf, written, taken, List.reverse_reverse]
  exact Nat.ofDigitChars_ten_toDigits

end Writing

end GameDay.Report
