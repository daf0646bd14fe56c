import GameDay.Proofs.Report.Tables
import GameDay.Proofs.Text.Lines

namespace GameDay.Report

section Unbroken

def texts (r : Report) : List String :=
  r.name :: r.status :: (r.executions.flatMap fun x => x.skill :: x.target :: x.error.toList) ++
    r.rollback.flatMap fun x => x.skill :: x.error.toList

def Unbroken (r : Report) : Prop := ∀ t ∈ r.texts, Text.Unbroken t

instance (r : Report) : Decidable r.Unbroken := inferInstanceAs (Decidable (∀ t ∈ r.texts, Text.Unbroken t))

@[simp] theorem newline_notMem_brief (d : Duration) : '\n' ∉ d.brief.toList := by
  intro mem
  have known := (Duration.Brief.reads_brief d).characters _ mem
  revert known
  decide

@[simp] theorem newline_notMem_uuid (id : Uuid) : '\n' ∉ id.text.toList := by
  simp [Uuid.text]

@[simp] theorem newline_notMem_timestamp (t : Timestamp) : '\n' ∉ t.text.toList := by
  simp only [Timestamp.text, Date.text, Timestamp.clockText, Date.yearText]
  split
  · simp
  · split <;> simp

theorem unbroken_titled {heading : String} {table : List String} (named : Text.Unbroken heading)
    (lines : ∀ l ∈ table, Text.Unbroken l) : ∀ l ∈ titled heading table, Text.Unbroken l := by
  have around : Text.Unbroken "" ∧ Text.Unbroken thinRule ∧ Text.Unbroken ("  " ++ heading) := by
    simpa [Text.Unbroken, thinRule] using named
  refine List.forall_mem_append.2 ⟨?_, lines⟩
  simp [around]

variable {r : Report}

@[simp] theorem newline_notMem_outcome (success : Bool) : '\n' ∉ (outcome success).toList := by
  cases success <;> decide

theorem unbroken_countSection (r : Report) : ∀ l ∈ r.countSection, Text.Unbroken l := by
  refine unbroken_titled (by simp [Text.Unbroken]) (forall_mem_tableOf (by decide) (by decide) fun e entry => ?_)
  obtain ⟨⟨k, n⟩, -, rfl⟩ := List.mem_map.1 entry
  have named : Text.Unbroken k.shortName := by cases k <;> decide
  simpa [Text.Unbroken, countLine] using named

theorem unbroken_executionSection (h : r.Unbroken) : ∀ l ∈ r.executionSection, Text.Unbroken l := by
  have own (x : ExecutionRecord) (mem : x ∈ r.executions) (t : String)
      (told : t ∈ x.skill :: x.target :: x.error.toList) : Text.Unbroken t :=
    h t (List.mem_append_left _ (List.mem_cons_of_mem _ (List.mem_cons_of_mem _
      (List.mem_flatMap.2 ⟨x, mem, told⟩))))
  refine unbroken_titled (by simp [Text.Unbroken]) (forall_mem_tableOf (by decide) (by decide)
    (forall_mem_entries ?_ ?_))
  · intro x mem n
    have skill := own x mem x.skill (by simp)
    have target := own x mem x.target (by simp)
    simp only [Text.Unbroken] at skill target
    simp [Text.Unbroken, executionRow, executionLine, skill, target]
  · intro x mem e given
    have error := own x mem e (by simp [Option.mem_def.1 given])
    simpa [Text.Unbroken] using error

theorem unbroken_rollbackSection (h : r.Unbroken) : ∀ l ∈ r.rollbackSection, Text.Unbroken l := by
  have own (x : RollbackRecord) (mem : x ∈ r.rollback) (t : String) (told : t ∈ x.skill :: x.error.toList) :
      Text.Unbroken t :=
    h t (List.mem_append_right _ (List.mem_flatMap.2 ⟨x, mem, told⟩))
  refine unbroken_titled (by simp [Text.Unbroken]) (forall_mem_tableOf (by decide) (by decide)
    (forall_mem_entries ?_ ?_))
  · intro x mem n
    have skill := own x mem x.skill (by simp)
    simp only [Text.Unbroken] at skill
    simp [Text.Unbroken, rollbackRow, rollbackLine, skill]
  · intro x mem e given
    have error := own x mem e (by simp [Option.mem_def.1 given])
    simpa [Text.Unbroken] using error

theorem unbroken_lines (h : r.Unbroken) : ∀ l ∈ r.lines, Text.Unbroken l := by
  have name : Text.Unbroken r.name := h _ (by simp [texts])
  have status : Text.Unbroken r.status := h _ (by simp [texts])
  simp only [Text.Unbroken] at name status
  simp only [lines_eq, List.forall_mem_append]
  refine ⟨?_, unbroken_countSection r, unbroken_executionSection h, unbroken_rollbackSection h, ?_⟩
  · simp [preface, Text.Unbroken, thickRule, name, status]
  · refine List.forall_mem_append.2 ⟨unbroken_titled (by decide) ?_, ?_⟩
    · simp [Text.Unbroken]
    · simp [Text.Unbroken, thickRule]

end Unbroken

theorem countP_of_countsByKind {targets others : List TargetSummary} (same : countsByKind targets = countsByKind others)
    (k : TargetKind) : targets.countP (·.kind = k) = others.countP (·.kind = k) := by
  have counts (n : Nat) : (k, n) ∈ countsByKind targets ↔ (k, n) ∈ countsByKind others := by rw [same]
  simp only [mem_countsByKind_iff] at counts
  have mine := counts (targets.countP (·.kind = k))
  have theirs := counts (others.countP (·.kind = k))
  omega

theorem successes_eq {α : Type} (success : α → Bool) (error : α → Option String) (records : List α) :
    records.map (fun x => (success x, error x)) = (records.map fun x => (outcome (success x), error x)).map
      fun told => (decide (told.1 = "OK"), told.2) := by
  have known (passed : Bool) : decide (outcome passed = "OK") = passed := by cases passed <;> decide
  simp only [List.map_map, Function.comp_def, known]

def outage : Report where
  id := ⟨7⟩
  name := "outage"
  status := "failed: busy"
  startedAt := ⟨0⟩
  completedAt := ⟨65000000000⟩
  total := ⟨65000000000, by decide⟩
  soak := ⟨2510000000, by decide⟩
  targets := [⟨.broker, "orders/1", "orders"⟩, ⟨.lambda, "arn", "resize"⟩, ⟨.lambda, "arn2", "notify"⟩]
  executions := [⟨"aws.lambda.inject_failure", "arn FAILED 3ms", true, ⟨1000000, by decide⟩, none⟩,
    ⟨"aws.msk.reboot_broker", "orders/1", false, ⟨2000000, by decide⟩, some "  3    OK       1ms"⟩]
  rollback := [⟨"aws.lambda.inject_failure", true, ⟨61500000000, by decide⟩, none⟩]

def retold : Report :=
  { outage with
    soak := ⟨2590000000, by decide⟩
    targets := [⟨.lambda, "arn3", "thumbs"⟩, ⟨.broker, "orders/2", "orders"⟩, ⟨.lambda, "arn", "resize"⟩]
    executions := [⟨"aws.lambda.inject_failure", "arn FAILED 3ms", true, ⟨1999999, by decide⟩, none⟩,
      ⟨"aws.msk.reboot_broker", "orders/1", false, ⟨2000001, by decide⟩, some "  3    OK       1ms"⟩] }

end GameDay.Report
