import GameDay.Proofs.Text.Numerals
import GameDay.Text.Columns
import Mathlib.Data.List.Basic

namespace GameDay.Text

def Unbroken (s : String) : Prop := '\n' ∉ s.toList

instance (s : String) : Decidable (Unbroken s) := inferInstanceAs (Decidable ('\n' ∉ s.toList))

@[simp] theorem newline_notMem_toDigits (n : Nat) : '\n' ∉ Nat.toDigits 10 n := by
  intro mem
  cases (Json.isDigits_iff.1 (Json.isDigits_toDigits n)).2 _ mem

@[simp] theorem newline_notMem_int (n : Int) : '\n' ∉ n.repr.toList := by
  cases n with
  | ofNat n =>
    change '\n' ∉ n.repr.toList
    simp
  | negSucc n =>
    change '\n' ∉ ("-" ++ (n + 1).repr).toList
    simp

@[simp] theorem newline_mem_column (width : Nat) (s : String) : '\n' ∈ (column width s).toList ↔ '\n' ∈ s.toList := by
  simp [column]

@[simp] theorem newline_mem_rule (width : Nat) (c : Char) :
    '\n' ∈ (rule width c).toList ↔ width ≠ 0 ∧ '\n' = c := by
  simp [rule]

@[simp] theorem newline_notMem_padded (width n : Nat) : '\n' ∉ (padded width n).toList := by
  simp [padded]

theorem hexDigit_ne_newline (n : Nat) : hexDigit n ≠ '\n' := by
  by_cases known : n < 16
  · revert n
    decide
  · rw [hexDigit, List.getD_eq_getElem?_getD, List.getElem?_eq_none (Nat.le_of_not_lt known)]
    decide

@[simp] theorem newline_notMem_hex (width n : Nat) : '\n' ∉ (hex width n).toList := by
  simp [hex, hexDigit_ne_newline]

theorem toList_lines (ls : List String) : (lines ls).toList = ls.flatMap fun l => l.toList ++ ['\n'] := by
  simp [lines, String.toList_join, List.flatMap_map, String.toList_append]

theorem line_stops {s : String} (h : Unbroken s) (rest : List Char) :
    (s.toList ++ '\n' :: rest).takeWhile (· ≠ '\n') = s.toList ∧
      (s.toList ++ '\n' :: rest).dropWhile (· ≠ '\n') = '\n' :: rest := by
  refine Json.takeWhile_stops (fun c mem => decide_eq_true ?_) (by simp)
  rintro rfl
  exact h mem

theorem lines_injective {a b : List String} (ha : ∀ l ∈ a, Unbroken l) (hb : ∀ l ∈ b, Unbroken l)
    (same : lines a = lines b) : a = b := by
  replace same := congrArg String.toList same
  rw [toList_lines, toList_lines] at same
  induction a generalizing b with
  | nil =>
    cases b with
    | nil => rfl
    | cons m b => simp at same
  | cons l a ih =>
    cases b with
    | nil => simp at same
    | cons m b =>
      obtain ⟨firstA, restA⟩ := List.forall_mem_cons.1 ha
      obtain ⟨firstB, restB⟩ := List.forall_mem_cons.1 hb
      simp only [List.flatMap_cons, List.append_assoc, List.singleton_append] at same
      obtain ⟨taken, dropped⟩ := line_stops firstA (a.flatMap fun l => l.toList ++ ['\n'])
      obtain ⟨taken', dropped'⟩ := line_stops firstB (b.flatMap fun l => l.toList ++ ['\n'])
      have first : l = m := String.toList_inj.1 (by rw [← taken, same, taken'])
      rw [same, dropped', List.cons.injEq] at dropped
      rw [first, ih restA restB dropped.2.symm]

end GameDay.Text
