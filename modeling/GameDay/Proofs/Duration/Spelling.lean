import GameDay.Proofs.Duration.Notation
import Mathlib.Data.List.Forall2

namespace GameDay.Duration.Iso8601

/-- The same character, the same letter in the other case, or the other separator. Letters are those from A to Z. -/
def Respelled (c d : Char) : Prop := c.toUpper = d.toUpper ∨ (c = '.' ∨ c = ',') ∧ (d = '.' ∨ d = ',')

instance (c d : Char) : Decidable (Respelled c d) :=
  inferInstanceAs (Decidable (c.toUpper = d.toUpper ∨ (c = '.' ∨ c = ',') ∧ (d = '.' ∨ d = ',')))

namespace Respelled

variable {c d : Char} {text other : List Char}

theorem isBlank_toUpper (c : Char) : Text.isBlank c.toUpper = Text.isBlank c := by
  by_cases lower : 'a'.val ≤ c.val ∧ c.val ≤ 'z'.val
  · obtain ⟨low, high, upper⟩ := toNat_toUpper lower
    have low : 97 ≤ c.toNat := low
    have high : c.toNat ≤ 122 := high
    have upper : c.toUpper.toNat = c.toNat - 32 := upper
    simp only [Text.isBlank, upper]
    grind
  · rw [toUpper_eq_self lower]

theorem isBlank (h : Respelled c d) : Text.isBlank c = Text.isBlank d := by
  rcases h with letter | ⟨rfl | rfl, rfl | rfl⟩
  · rw [← isBlank_toUpper c, letter, isBlank_toUpper]
  all_goals rfl

theorem step (h : Respelled c d) (p : Progress) : p.step c = p.step d := by
  rcases h with letter | ⟨rfl | rfl, rfl | rfl⟩
  · rw [← step_toUpper p c, letter, step_toUpper]
  all_goals rfl

theorem begins_iff (h : Respelled c d) : c = 'P' ∨ c = 'p' ↔ d = 'P' ∨ d = 'p' := by
  rcases h with letter | ⟨rfl | rfl, rfl | rfl⟩
  · rw [← toUpper_eq_mark_iff, letter, toUpper_eq_mark_iff]
  all_goals decide

theorem dropBlanks (h : List.Forall₂ Respelled text other) :
    List.Forall₂ Respelled (text.dropWhile Text.isBlank) (other.dropWhile Text.isBlank) := by
  induction h with
  | nil => exact .nil
  | @cons c d text other first rest ih =>
    rw [List.dropWhile_cons, List.dropWhile_cons, first.isBlank]
    split
    · exact ih
    · exact .cons first rest

theorem strip (h : List.Forall₂ Respelled text other) :
    List.Forall₂ Respelled (Text.strip text) (Text.strip other) :=
  List.rel_reverse (dropBlanks (List.rel_reverse (dropBlanks h)))

theorem steps (h : List.Forall₂ Respelled text other) (p : Progress) :
    text.foldlM Progress.step p = other.foldlM Progress.step p := by
  induction h generalizing p with
  | nil => rfl
  | @cons c d text other first rest ih => simp only [List.foldlM_cons, first.step, ih]

theorem readChars_eq (h : List.Forall₂ Respelled text other) : readChars text = readChars other := by
  unfold readChars
  have stripped := strip h
  generalize Text.strip text = before, Text.strip other = after at stripped
  cases stripped with
  | nil => rfl
  | cons first rest => simp only [first.begins_iff, steps rest]

end Respelled

/-- The case of letters and the choice of separators make no difference to what is read, nor to which error is
found in a text and what it names. -/
theorem read_respelled {text other : String} (h : List.Forall₂ Respelled text.toList other.toList) :
    read text = read other :=
  Respelled.readChars_eq h

theorem refused_respelled :
    List.Forall₂ Respelled " pt1,5h2.3,4m ".toList " Pt1.5H2,3.4M ".toList ∧
    read " pt1,5h2.3,4m " = .error (.invalidNumber "2.3.4") ∧
    read " Pt1.5H2,3.4M " = .error (.invalidNumber "2.3.4") := by
  have spelled : List.Forall₂ Respelled " pt1,5h2.3,4m ".toList " Pt1.5H2,3.4M ".toList := by decide
  have refused : read " pt1,5h2.3,4m " = .error (.invalidNumber "2.3.4") := rfl
  exact ⟨spelled, refused, (read_respelled spelled).symm.trans refused⟩

end GameDay.Duration.Iso8601
