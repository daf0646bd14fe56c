import GameDay.Proofs.Duration.Notation
import Mathlib.Algebra.Ring.Nat

namespace GameDay.Duration.Iso8601

/-- A number, with the separator and the digits of its fraction if it has one, and its unit. -/
structure Component where
  whole : List Char
  fraction : Option (Char × List Char) := none
  unit : Char × Nat

namespace Component

def places (c : Component) : List Char := c.fraction.elim [] Prod.snd

def number (c : Component) : List Char := c.whole ++ c.fraction.elim [] fun f => f.1 :: f.2

def text (c : Component) : List Char := c.number ++ [c.unit.1]

def nanos (c : Component) : Nat := billionths c.whole c.places * c.unit.2

structure WellFormed (c : Component) : Prop where
  some : c.whole ≠ []
  digits : Digits c.whole
  separates : ∀ f ∈ c.fraction, f.1 = '.' ∨ f.1 = ','
  places : Digits c.places

end Component

def total (parts : List Component) : Nat := (parts.map Component.nanos).sum

structure Listed (units : List (Char × Nat)) (parts : List Component) : Prop where
  each : ∀ c ∈ parts, c.WellFormed
  ordered : (parts.map Component.unit).Sublist units

inductive Spelled : List Char → List Component → Prop
  | date {parts : List Component} (some : parts ≠ []) (date : Listed dateUnits parts) :
      Spelled ('P' :: parts.flatMap Component.text) parts
  | time {before after : List Component} (some : before ++ after ≠ []) (date : Listed dateUnits before)
      (time : Listed timeUnits after) :
      Spelled ('P' :: (before.flatMap Component.text ++ 'T' :: after.flatMap Component.text)) (before ++ after)

def addUp : Nat → List Component → Except ReadError Nat
  | sum, [] => .ok sum
  | sum, c :: parts =>
    if limit ≤ wholeValue c.whole then .error (.invalidNumber (String.ofList (collect c.number)))
    else if sum + c.nanos < limit then addUp (sum + c.nanos) parts
    else .error .overflow

section Grammar

variable {units : List (Char × Nat)} {text : List Char} {parts : List Component} {c : Component} {k n b : Nat}

theorem digits_of_all (h : text.all Char.isDigit = true) : Digits text := List.all_eq_true.1 h

theorem total_cons (c : Component) (parts : List Component) : total (c :: parts) = c.nanos + total parts := by
  simp [total]

theorem total_singleton (c : Component) : total [c] = c.nanos := by
  simp [total]

theorem total_append (before after : List Component) :
    total (before ++ after) = total before + total after := by
  simp [total]

namespace Component.WellFormed

theorem numeral (h : c.WellFormed) : Numeral c.number (billionths c.whole c.places) := by
  obtain ⟨whole, fraction, unit⟩ := c
  cases fraction with
  | none =>
    simp only [number, Option.elim, List.append_nil]
    exact .whole h.some h.digits
  | some f => exact .fraction h.some h.digits (h.separates f rfl) h.places

theorem cut (h : c.WellFormed) : (collect c.number).takeWhile (· ≠ '.') = c.whole ∧
    ((collect c.number).dropWhile (· ≠ '.')).drop 1 = c.places := by
  obtain ⟨whole, fraction, unit⟩ := c
  cases fraction with
  | none =>
    simp only [number, Option.elim, List.append_nil]
    exact cut_digits h.digits
  | some f =>
    obtain ⟨before, after⟩ := cut_collect (f := f.2) h.digits (h.separates f rfl)
    exact ⟨before, after.trans (collect_digits h.places)⟩

theorem componentNanos_eq (h : c.WellFormed) : componentNanos (collect c.number) c.unit.2 =
    if limit ≤ wholeValue c.whole then .error (.invalidNumber (String.ofList (collect c.number)))
    else if c.nanos < limit then .ok c.nanos else .error .overflow := by
  obtain ⟨before, after⟩ := h.cut
  have value : wholeValue c.whole * (c.unit.2 * 10 ^ 9) + fractionNanos c.places * c.unit.2 = c.nanos := by
    rw [nanos, billionths_eq h.places, Nat.add_mul, Nat.mul_assoc, Nat.mul_comm (10 ^ 9)]
  have point : '.' ∉ c.places := fun mem => absurd rfl (of_decide_eq_true (ne_point h.places _ mem))
  unfold componentNanos
  simp only [before, after, value, h.some, point, false_or]

end Component.WellFormed

theorem Numeral.exists_component (h : Numeral text b) (unit : Char × Nat) : ∃ c : Component,
    c.WellFormed ∧ c.unit = unit ∧ c.number = text ∧ c.nanos = b * unit.2 := by
  cases h with
  | whole some digits =>
    refine ⟨⟨text, none, unit⟩, ⟨some, digits, ?_, List.forall_mem_nil _⟩, rfl, ?_, rfl⟩
    · rintro f ⟨⟩
    · exact List.append_nil text
  | @fraction w f point some digits separates places =>
    refine ⟨⟨w, .some (point, f), unit⟩, ⟨some, digits, ?_, places⟩, rfl, rfl, rfl⟩
    rintro _ ⟨⟩
    exact separates

theorem Listed.nil : Listed units [] := ⟨List.forall_mem_nil _, List.nil_sublist _⟩

theorem Listed.skip {unit : Char × Nat} (h : Listed units parts) : Listed (unit :: units) parts :=
  ⟨h.each, h.ordered.cons unit⟩

theorem Listed.take (well : c.WellFormed) (h : Listed units parts) :
    Listed (c.unit :: units) (c :: parts) :=
  ⟨List.forall_mem_cons.2 ⟨well, h.each⟩, h.ordered.cons_cons c.unit⟩

theorem Listed.cases_cons {unit : Char × Nat} (h : Listed (unit :: units) parts) :
    Listed units parts ∨ ∃ c rest, parts = c :: rest ∧ c.unit = unit ∧ c.WellFormed ∧ Listed units rest := by
  rcases List.sublist_cons_iff.1 h.ordered with skipped | ⟨others, taken, ordered⟩
  · exact .inl ⟨h.each, skipped⟩
  · obtain ⟨c, rest, rfl, same, rfl⟩ := List.map_eq_cons_iff.1 taken
    obtain ⟨well, each⟩ := List.forall_mem_cons.1 h.each
    exact .inr ⟨c, rest, rfl, same, well, each, ordered⟩

theorem Listed.unit_pos (h : Listed units parts) (pos : ∀ u ∈ units, 0 < u.2) : ∀ c ∈ parts, 0 < c.unit.2 :=
  fun _ mem => pos _ (h.ordered.subset (List.mem_map_of_mem mem))

theorem Spelled.unit_pos (h : Spelled text parts) : ∀ c ∈ parts, 0 < c.unit.2 := by
  have dates : ∀ u ∈ dateUnits, 0 < u.2 := by decide
  have times : ∀ u ∈ timeUnits, 0 < u.2 := by decide
  cases h with
  | date _ date => exact date.unit_pos dates
  | time _ date time => exact List.forall_mem_append.2 ⟨date.unit_pos dates, time.unit_pos times⟩

theorem Spelled.well (h : Spelled text parts) : ∀ c ∈ parts, c.WellFormed := by
  cases h with
  | date _ date => exact date.each
  | time _ date time => exact List.forall_mem_append.2 ⟨date.each, time.each⟩

theorem parts_iff : Parts units text k n ↔ ∃ parts, Listed units parts ∧
    text = parts.flatMap Component.text ∧ k = parts.length ∧ n = total parts := by
  constructor
  · intro h
    induction h with
    | nil => exact ⟨[], .nil, rfl, rfl, rfl⟩
    | skip _ ih =>
      obtain ⟨parts, listed, rest⟩ := ih
      exact ⟨parts, listed.skip, rest⟩
    | @take letter secs b k n units number text numeral _ ih =>
      obtain ⟨parts, listed, rfl, rfl, rfl⟩ := ih
      obtain ⟨c, well, unit, rfl, nanos⟩ := numeral.exists_component (letter, secs)
      refine ⟨c :: parts, unit ▸ listed.take well, ?_, rfl, ?_⟩
      · simp [Component.text, unit]
      · rw [total_cons, nanos]
  · rintro ⟨parts, listed, rfl, rfl, rfl⟩
    induction units generalizing parts with
    | nil =>
      obtain rfl := List.map_eq_nil_iff.1 (List.sublist_nil.1 listed.ordered)
      exact .nil
    | cons unit units ih =>
      rcases listed.cases_cons with skipped | ⟨c, rest, rfl, rfl, well, listed⟩
      · exact .skip (ih parts skipped)
      · have taken : Parts ((c.unit.1, c.unit.2) :: units) _ _ _ := .take well.numeral (ih rest listed)
        simpa [Component.text, total_cons, Component.nanos] using taken

theorem written_iff : Written text n ↔ ∃ parts, Spelled text parts ∧ n = total parts := by
  constructor
  · rintro ⟨body, some⟩
    cases body with
    | date date =>
      obtain ⟨parts, listed, rfl, rfl, rfl⟩ := parts_iff.1 date
      exact ⟨parts, .date (List.length_pos_iff.1 some) listed, rfl⟩
    | time date time =>
      obtain ⟨before, early, rfl, rfl, rfl⟩ := parts_iff.1 date
      obtain ⟨after, late, rfl, rfl, rfl⟩ := parts_iff.1 time
      refine ⟨before ++ after, .time ?_ early late, (total_append before after).symm⟩
      apply List.length_pos_iff.1
      rwa [List.length_append]
  · rintro ⟨parts, spelled, rfl⟩
    cases spelled with
    | date some date =>
      exact .intro (.date (parts_iff.2 ⟨_, date, rfl, rfl, rfl⟩)) (List.length_pos_iff.2 some)
    | @time before after some date time =>
      rw [total_append]
      refine .intro (.time (parts_iff.2 ⟨_, date, rfl, rfl, rfl⟩) (parts_iff.2 ⟨_, time, rfl, rfl, rfl⟩)) ?_
      rw [← List.length_append]
      exact List.length_pos_iff.2 some

end Grammar

section Reading

variable {units : List (Char × Nat)} {parts : List Component} {p : Progress} {c : Component}

theorem addUp_append (sum : Nat) (before after : List Component) :
    addUp sum (before ++ after) = (addUp sum before).bind fun sum => addUp sum after := by
  induction before generalizing sum with
  | nil => rfl
  | cons c before ih =>
    simp only [List.cons_append, addUp]
    split
    · rfl
    · split
      · exact ih _
      · rfl

theorem step_component (well : c.WellFormed) {inTime : Bool} {before rank : Nat}
    (known : designator inTime c.unit.1 = some (rank, c.unit.2)) (later : before < rank) (sum : Nat) :
    Progress.step ⟨sum, inTime, before, collect c.number⟩ c.unit.1 =
      (addUp sum [c]).map fun sum => ⟨sum, inTime, rank, []⟩ := by
  have upper : designator inTime c.unit.1.toUpper = some (rank, c.unit.2) := by
    rw [designator_toUpper known]
    exact known
  rw [step_of_designator (p := ⟨sum, inTime, before, collect c.number⟩) upper]
  simp only [well.componentNanos_eq, addUp]
  rw [if_neg (Nat.not_le_of_lt later)]
  by_cases long : limit ≤ wholeValue c.whole
  · simp only [if_pos long]
    rfl
  · simp only [if_neg long]
    by_cases room : sum + c.nanos < limit
    · have held : c.nanos < limit := Nat.lt_of_le_of_lt (Nat.le_add_left _ _) room
      simp only [if_pos held, if_pos room]
      rfl
    · by_cases held : c.nanos < limit
      · simp only [if_pos held, if_neg room]
        rfl
      · simp only [if_neg held, if_neg room]
        rfl

theorem steps_listed (listed : Listed units parts) {inTime : Bool} {before : Nat}
    (ranked : Ranked inTime before units) :
    ∃ rank, before + parts.length ≤ rank ∧ (rank = before ∨ ∃ c secs, designator inTime c = some (rank, secs)) ∧
      ∀ sum, (parts.flatMap Component.text).foldlM Progress.step ⟨sum, inTime, before, []⟩ =
        (addUp sum parts).map fun sum => ⟨sum, inTime, rank, []⟩ := by
  induction units generalizing parts before with
  | nil =>
    obtain rfl := List.map_eq_nil_iff.1 (List.sublist_nil.1 listed.ordered)
    exact ⟨before, Nat.le_refl _, .inl rfl, fun _ => rfl⟩
  | cons unit units ih =>
    obtain ⟨rank, known, later, rest⟩ := ranked
    rcases listed.cases_cons with skipped | ⟨c, others, rfl, rfl, well, listed⟩
    · exact ih skipped (rest.mono (Nat.le_of_lt later))
    · obtain ⟨last, more, place, steps⟩ := ih listed rest
      refine ⟨last, ?_, ?_, ?_⟩
      · rw [List.length_cons]
        omega
      · rcases place with rfl | place
        · exact .inr ⟨c.unit.1, c.unit.2, known⟩
        · exact .inr place
      · intro sum
        have text : (c :: others).flatMap Component.text =
            c.number ++ c.unit.1 :: others.flatMap Component.text := by simp [Component.text]
        have added : addUp sum (c :: others) = (addUp sum [c]).bind fun sum => addUp sum others :=
          addUp_append sum [c] others
        rw [text, steps_append well.numeral.numeric, List.foldlM_cons, List.nil_append,
          step_component well known later, added]
        cases addUp sum [c] with
        | error e => rfl
        | ok sum => exact steps sum

theorem steps_spelled {text : List Char} (spelled : Spelled ('P' :: text) parts) :
    ∃ inTime rank, rank ≠ 0 ∧ text.foldlM Progress.step {} =
      (addUp 0 parts).map fun sum => ⟨sum, inTime, rank, []⟩ := by
  cases spelled with
  | date some date =>
    obtain ⟨rank, more, _, steps⟩ := steps_listed date ranked_dateUnits
    have := List.length_pos_iff.2 some
    exact ⟨false, rank, by omega, steps 0⟩
  | @time before after some date time =>
    obtain ⟨rank, more, place, steps⟩ := steps_listed date ranked_dateUnits
    have early : rank ≤ 2 := by
      rcases place with rfl | ⟨c, secs, known⟩
      · exact Nat.zero_le 2
      · exact rank_of_date known
    obtain ⟨last, more', _, steps'⟩ := steps_listed time (ranked_timeUnits.mono early)
    have := List.length_pos_iff.2 some
    rw [List.length_append] at this
    refine ⟨true, last, by omega, ?_⟩
    rw [List.foldlM_append, addUp_append]
    change (_ >>= fun q => ('T' :: after.flatMap Component.text).foldlM Progress.step q) = _
    rw [steps 0]
    cases addUp 0 before with
    | error e => rfl
    | ok sum => exact steps' sum

theorem read_spelled {text : String} (spelled : Spelled (plain text) parts) :
    read text = (addUp 0 parts).bind fun sum =>
      match Duration.ofNanos? sum with
      | some d => .ok d
      | none => .error .overflow := by
  unfold read readChars
  unfold plain at spelled
  cases stripped : Text.strip text.toList with
  | nil =>
    rw [stripped] at spelled
    cases spelled
  | cons mark rest =>
    rw [stripped, List.map_cons] at spelled
    have first : mark.toUpper = 'P' := by
      generalize mark.toUpper = c, rest.map Char.toUpper = text at spelled
      cases spelled <;> rfl
    rw [first] at spelled
    obtain ⟨inTime, rank, some, steps⟩ := steps_spelled spelled
    have same : (rest.map Char.toUpper).foldlM Progress.step {} = rest.foldlM Progress.step {} := by
      rw [List.foldlM_map]
      simp only [step_toUpper]
    simp only [if_pos (toUpper_eq_mark_iff.1 first)]
    rw [← same, steps]
    cases addUp 0 parts with
    | error e => rfl
    | ok sum =>
      cases fits : Duration.ofNanos? sum <;> simp [Except.map, Except.bind, Progress.finish, some, fits]

theorem addUp_eq_ok {sum n : Nat} (h : addUp sum parts = .ok n) : n = sum + total parts := by
  induction parts generalizing sum with
  | nil =>
    cases h
    rfl
  | cons c parts ih =>
    unfold addUp at h
    split at h
    · cases h
    · split at h
      · rw [ih h, total_cons, Nat.add_assoc]
      · cases h

theorem nanos_of_read {text : String} (spelled : Spelled (plain text) parts) {d : Duration}
    (accepted : read text = .ok d) : d.nanos = total parts := by
  rw [read_spelled spelled] at accepted
  cases added : addUp 0 parts with
  | error e =>
    rw [added] at accepted
    cases accepted
  | ok sum =>
    rw [added] at accepted
    simp only [Except.bind] at accepted
    split at accepted
    · rename_i found
      cases accepted
      rw [Duration.nanos_of_ofNanos? found, addUp_eq_ok added, Nat.zero_add]
    · cases accepted

end Reading

end GameDay.Duration.Iso8601
