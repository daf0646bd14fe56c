import GameDay.Proofs.Report.Rows
import Mathlib.Algebra.Ring.Nat

/-!
The tables in a report. Each record has a row of its own with its number and its result, and its error below it if
it has one, and all this can be read again from the lines of the report.
-/

namespace GameDay.Report

open Text.Json (takeWhile_stops)

def entries {α : Type} (row : Nat → α → String) (error : α → Option String) (number : Nat) (records : List α) :
    List (List String) :=
  (records.zipIdx number).map fun x => row x.2 x.1 :: (error x.1).toList.map ("       -> " ++ ·)

def executionEntries (r : Report) : List (List String) := entries executionRow ExecutionRecord.error 1 r.executions

def rollbackEntries (r : Report) : List (List String) := entries rollbackRow RollbackRecord.error 1 r.rollback

def countEntries (r : Report) : List (List String) :=
  (countsByKind r.targets).map fun e => [countLine e.1.shortName (toString e.2)]

/-- These are the entries of the records, each in its place and numbered from one. -/
structure Numbered {α : Type} (success : α → Bool) (error : α → Option String) (records : List α)
    (entries : List (List String)) : Prop where
  length : entries.length = records.length
  each : ∀ i x, records[i]? = some x → ∃ row, entries[i]? = some (row :: (error x).toList.map ("       -> " ++ ·)) ∧
    numberOf row = i + 1 ∧ resultOf row = if success x then "OK" else "FAILED"

def tableOf (head : String) (entries : List (List String)) : List String :=
  if entries = [] then ["  (none)"] else head :: entries.flatten

/-- A line is an error of the row above it, or a row. Lines are read from the last one on. -/
def readLine (line : String) (below : Option String × List (String × Option String)) :
    Option String × List (String × Option String) :=
  match errorOf? line with
  | some e => (some e, below.2)
  | none => (none, (resultOf line, below.1) :: below.2)

def readEntries (lines : List String) : List (String × Option String) := (lines.foldr readLine (none, [])).2

def content (lines : List String) : List String := (lines.drop 5).takeWhile (· ≠ "")

def afterSection (lines : List String) : List String := (lines.drop 5).dropWhile (· ≠ "")

section Tables

variable {α : Type} {row : Nat → α → String} {error : α → Option String} {success : α → Bool}

theorem entries_cons (number : Nat) (x : α) (records : List α) : entries row error number (x :: records) =
    (row number x :: (error x).toList.map ("       -> " ++ ·)) :: entries row error (number + 1) records := rfl

theorem numbered_entries (rows : ∀ n x, Row n (success x) (row n x)) (records : List α) :
    Numbered success error records (entries row error 1 records) := by
  constructor
  · rw [entries, List.length_map, List.length_zipIdx]
  · intro i x found
    refine ⟨row (i + 1) x, ?_, (rows _ x).numberOf_eq, (rows _ x).resultOf_eq⟩
    rw [entries, List.getElem?_map, List.getElem?_zipIdx, found, Nat.add_comm]
    rfl

theorem errorLines_eq (e : Option String) : errorLines e = e.toList.map ("       -> " ++ ·) := by
  cases e <;> rfl

theorem executionLines_eq (n : Nat) (rs : List ExecutionRecord) :
    executionLines n rs = (entries executionRow ExecutionRecord.error (n + 1) rs).flatten := by
  induction rs generalizing n with
  | nil => rfl
  | cons r rs ih => rw [executionLines, entries_cons, List.flatten_cons, ih, errorLines_eq]; rfl

theorem rollbackLines_eq (n : Nat) (rs : List RollbackRecord) :
    rollbackLines n rs = (entries rollbackRow RollbackRecord.error (n + 1) rs).flatten := by
  induction rs generalizing n with
  | nil => rfl
  | cons r rs ih => rw [rollbackLines, entries_cons, List.flatten_cons, ih, errorLines_eq]; rfl

theorem foldr_entries (rows : ∀ n x, Row n (success x) (row n x)) (number : Nat) (records : List α) :
    (entries row error number records).flatten.foldr readLine (none, []) =
      (none, records.map fun x => (outcome (success x), error x)) := by
  induction records generalizing number with
  | nil => rfl
  | cons x records ih =>
    have reads := (rows number x).errorOf?_eq
    have result := (rows number x).resultOf_eq
    rw [entries_cons, List.flatten_cons, List.foldr_append, ih]
    cases told : error x with
    | none => simp [readLine, reads, result, told]
    | some e => simp [readLine, reads, result, told, errorOf?_mark]

theorem readEntries_flatten (rows : ∀ n x, Row n (success x) (row n x)) (number : Nat) (records : List α) :
    readEntries (entries row error number records).flatten =
      records.map fun x => (outcome (success x), error x) := by
  rw [readEntries, foldr_entries rows]

theorem tail_tableOf (head : String) (entries : List (List String)) :
    (tableOf head entries).tail = entries.flatten := by
  unfold tableOf
  split
  · simp [*]
  · rfl

theorem table_flatten (head : String) {entries : List (List String)} (some : ∀ e ∈ entries, e ≠ []) :
    table head entries.flatten = tableOf head entries := by
  unfold table tableOf
  cases entries with
  | nil => rfl
  | cons e entries =>
    have first := some e List.mem_cons_self
    simp [first]

theorem forall_mem_tableOf {p : String → Prop} {head : String} {entries : List (List String)}
    (remark : p "  (none)") (named : p head) (lines : ∀ e ∈ entries, ∀ l ∈ e, p l) :
    ∀ l ∈ tableOf head entries, p l := by
  unfold tableOf
  split
  · exact List.forall_mem_singleton.2 remark
  · refine List.forall_mem_cons.2 ⟨named, fun l mem => ?_⟩
    obtain ⟨e, entry, mem⟩ := List.mem_flatten.1 mem
    exact lines e entry l mem

theorem forall_mem_entries {p : String → Prop} {number : Nat} {records : List α}
    (rows : ∀ x ∈ records, ∀ n, p (row n x)) (errors : ∀ x ∈ records, ∀ e ∈ error x, p ("       -> " ++ e)) :
    ∀ e ∈ entries row error number records, ∀ l ∈ e, p l := by
  intro e entry
  obtain ⟨⟨x, n⟩, mem, rfl⟩ := List.mem_map.1 entry
  have mem := List.fst_mem_of_mem_zipIdx mem
  refine List.forall_mem_cons.2 ⟨rows x mem n, fun l line => ?_⟩
  obtain ⟨told, given, rfl⟩ := List.mem_map.1 line
  exact errors x mem told (Option.mem_toList.1 given)

theorem ne_nil_of_mem_entries {number : Nat} {records : List α} :
    ∀ e ∈ entries row error number records, e ≠ [] := by
  intro e mem
  obtain ⟨x, -, rfl⟩ := List.mem_map.1 mem
  exact List.cons_ne_nil _ _

theorem entries_eq_nil_iff {number : Nat} {records : List α} :
    entries row error number records = [] ↔ records = [] := by
  rw [entries, List.map_eq_nil_iff, List.zipIdx_eq_nil_iff]

theorem section_ends {table : List String} (solid : ∀ l ∈ table, l ≠ "") (heading : String) (rest : List String)
    (next : rest.head? = some "") : content (titled heading table ++ rest) = table ∧
      afterSection (titled heading table ++ rest) = rest :=
  takeWhile_stops (fun l mem => decide_eq_true (solid l mem)) (by simp [next])

theorem entries_solid (rows : ∀ n x, Row n (success x) (row n x)) {number : Nat} {records : List α} :
    ∀ e ∈ entries row error number records, ∀ l ∈ e, l ≠ "" :=
  forall_mem_entries (fun x _ n => (rows n x).ne_empty) fun _ _ e _ => errorLine_ne_empty e

end Tables

section Counts

/-- These kinds occur among the targets, in the order of kinds, each so many times. -/
structure Counted (targets : List TargetSummary) (counts : List (TargetKind × Nat)) : Prop where
  ordered : counts.Pairwise fun a b => a.1.rank < b.1.rank
  occurs : ∀ k, (∃ n, (k, n) ∈ counts) ↔ ∃ t ∈ targets, t.kind = k
  counted : ∀ e ∈ counts, e.2 = targets.countP (·.kind = e.1)
  complete : (counts.map Prod.snd).sum = targets.length

variable {targets : List TargetSummary} {k : TargetKind} {n : Nat}

theorem mem_countsByKind_iff :
    (k, n) ∈ countsByKind targets ↔ n = targets.countP (·.kind = k) ∧ 0 < n := by
  have all : k ∈ TargetKind.all := by cases k <;> decide
  simp only [countsByKind, List.mem_filter, List.mem_map, Prod.mk.injEq, decide_eq_true_eq]
  constructor
  · rintro ⟨⟨k, -, rfl, rfl⟩, some⟩
    exact ⟨rfl, some⟩
  · rintro ⟨rfl, some⟩
    exact ⟨⟨k, all, rfl, rfl⟩, some⟩

theorem sum_filter_pos (counts : List (TargetKind × Nat)) :
    ((counts.filter (0 < ·.2)).map Prod.snd).sum = (counts.map Prod.snd).sum := by
  induction counts with
  | nil => rfl
  | cons e counts ih =>
    rw [List.filter_cons]
    split
    · simp [ih]
    · rename_i none
      have zero : e.2 = 0 := by simpa using none
      simp [ih, zero]

theorem sum_countP (targets : List TargetSummary) :
    (TargetKind.all.map fun k => targets.countP (·.kind = k)).sum = targets.length := by
  induction targets with
  | nil => rfl
  | cons t targets ih =>
    simp only [TargetKind.all, List.map_cons, List.map_nil, List.sum_cons, List.sum_nil, List.countP_cons,
      List.length_cons] at ih ⊢
    rw [← ih]
    cases t.kind <;> simp <;> omega

theorem counted_countsByKind (targets : List TargetSummary) : Counted targets (countsByKind targets) := by
  constructor
  · have ranks : TargetKind.all.Pairwise fun a b => a.rank < b.rank := by decide
    refine List.Pairwise.filter _ (List.pairwise_map.2 ?_)
    exact ranks
  · intro k
    simp only [mem_countsByKind_iff, exists_eq_left, List.countP_pos_iff, decide_eq_true_eq]
  · rintro ⟨k, n⟩ mem
    exact (mem_countsByKind_iff.1 mem).1
  · rw [countsByKind, sum_filter_pos, List.map_map]
    exact sum_countP targets

end Counts

structure Contents where
  counts : List (Option TargetKind × Nat)
  executions : List (String × Option String)
  rollback : List (String × Option String)

def readLines (lines : List String) : Contents :=
  let found := lines.drop 9
  let used := afterSection found
  let undone := afterSection used
  { counts := (content found).tail.map fun row => (kindOf? row, countOf row)
    executions := readEntries (content used).tail
    rollback := readEntries (content undone).tail }

def preface (r : Report) : List String :=
  ["", thickRule, "  EXPERIMENT REPORT", thickRule, "", "  Name:     " ++ r.name, "  ID:       " ++ r.id.text,
    "  Status:   " ++ r.status, "  Duration: " ++ r.total.brief]

def closing (r : Report) : List String :=
  titled "TIMELINE" ["  Started:    " ++ r.startedAt.text, "  Completed:  " ++ r.completedAt.text,
    "  Soak time:  " ++ r.soak.brief, "  Total:      " ++ r.total.brief] ++ ["", thickRule]

def countHead : String := countLine "KIND" "COUNT"

def executionHead : String := executionLine "#" "SKILL" "TARGET" "RESULT" "DURATION"

def rollbackHead : String := rollbackLine "#" "SKILL" "RESULT" "DURATION"

def countSection (r : Report) : List String :=
  titled ("DISCOVERED TARGETS (" ++ toString r.targets.length ++ ")") (tableOf countHead r.countEntries)

def executionSection (r : Report) : List String :=
  titled ("SKILLS EXECUTED (" ++ toString r.executions.length ++ ")") (tableOf executionHead r.executionEntries)

def rollbackSection (r : Report) : List String :=
  titled ("ROLLBACK (" ++ toString r.rollback.length ++ " steps)") (tableOf rollbackHead r.rollbackEntries)

section Lines

theorem countLines_eq (r : Report) : countLines r.targets = r.countEntries.flatten := by
  rw [countLines, countEntries, List.map_eq_flatMap]
  rfl

theorem countRows_eq (r : Report) : r.countEntries.flatten.map (fun row => (kindOf? row, countOf row)) =
    (countsByKind r.targets).map fun e => (some e.1, e.2) := by
  rw [← countLines_eq, countLines, List.map_map]
  simp only [Function.comp_def, kindOf?_countLine, countOf_countLine]

theorem countEntries_eq_nil_iff (r : Report) : r.countEntries = [] ↔ r.targets = [] := by
  have counted := counted_countsByKind r.targets
  rw [countEntries, List.map_eq_nil_iff]
  constructor
  · intro none
    have complete := counted.complete
    rw [none] at complete
    exact List.eq_nil_of_length_eq_zero complete.symm
  · intro none
    rw [none]
    rfl

theorem lines_eq (r : Report) :
    r.lines = r.preface ++ (r.countSection ++ (r.executionSection ++ (r.rollbackSection ++ r.closing))) := by
  have counted : ∀ e ∈ r.countEntries, e ≠ [] := by
    intro e mem
    obtain ⟨x, -, rfl⟩ := List.mem_map.1 mem
    exact List.cons_ne_nil _ _
  have found : tableOf countHead r.countEntries = table countHead (countLines r.targets) := by
    rw [countLines_eq, table_flatten _ counted]
  have used : tableOf executionHead r.executionEntries = table executionHead (executionLines 0 r.executions) := by
    rw [executionLines_eq, table_flatten _ ne_nil_of_mem_entries]
    rfl
  have undone : tableOf rollbackHead r.rollbackEntries = table rollbackHead (rollbackLines 0 r.rollback) := by
    rw [rollbackLines_eq, table_flatten _ ne_nil_of_mem_entries]
    rfl
  rw [countSection, found, executionSection, used, rollbackSection, undone]
  simp only [lines, preface, closing, countHead, executionHead, rollbackHead, List.append_assoc]

theorem countSection_ends (r : Report) (rest : List String) (next : rest.head? = some "") :
    content (r.countSection ++ rest) = tableOf countHead r.countEntries ∧
      afterSection (r.countSection ++ rest) = rest := by
  refine section_ends (forall_mem_tableOf (by decide) (by decide) fun e entry => ?_) _ rest next
  obtain ⟨x, -, rfl⟩ := List.mem_map.1 entry
  exact List.forall_mem_singleton.2 (countLine_ne_empty _ _)

theorem executionSection_ends (r : Report) (rest : List String) (next : rest.head? = some "") :
    content (r.executionSection ++ rest) = tableOf executionHead r.executionEntries ∧
      afterSection (r.executionSection ++ rest) = rest :=
  section_ends (forall_mem_tableOf (by decide) (by decide) (entries_solid executionRow_row)) _ rest next

theorem rollbackSection_ends (r : Report) (rest : List String) (next : rest.head? = some "") :
    content (r.rollbackSection ++ rest) = tableOf rollbackHead r.rollbackEntries ∧
      afterSection (r.rollbackSection ++ rest) = rest :=
  section_ends (forall_mem_tableOf (by decide) (by decide) (entries_solid rollbackRow_row)) _ rest next

theorem readLines_lines (r : Report) : readLines r.lines =
    { counts := (countsByKind r.targets).map fun e => (some e.1, e.2)
      executions := r.executions.map fun x => (outcome x.success, x.error)
      rollback := r.rollback.map fun x => (outcome x.success, x.error) } := by
  have tables : r.lines.drop 9 = r.countSection ++ (r.executionSection ++ (r.rollbackSection ++ r.closing)) := by
    rw [lines_eq]
    exact List.drop_left' rfl
  obtain ⟨counts, later⟩ := r.countSection_ends (r.executionSection ++ (r.rollbackSection ++ r.closing)) rfl
  obtain ⟨executions, last⟩ := r.executionSection_ends (r.rollbackSection ++ r.closing) rfl
  obtain ⟨rollback, -⟩ := r.rollbackSection_ends r.closing rfl
  simp only [readLines, tables, counts, later, executions, last, rollback, tail_tableOf, countRows_eq]
  rw [executionEntries, rollbackEntries, readEntries_flatten executionRow_row, readEntries_flatten rollbackRow_row]

end Lines

end GameDay.Report
