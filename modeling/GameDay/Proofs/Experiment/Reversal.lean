import GameDay.Proofs.Experiment.Phases
import GameDay.Proofs.Experiment.Rounds
import Mathlib.Data.List.Nodup

namespace GameDay

namespace Step

def started? : Step → Option (Handle × Launch)
  | .execute _ t params (.ok h) => some (h, ⟨t, params⟩)
  | _ => none

def undoBegun? : Step → Option (Handle × Launch)
  | .connect (.rollback h) t params _ => some (h, ⟨t, params⟩)
  | _ => none

def undoEnded? : Step → Option Attempt
  | .connect (.rollback h) t params (.error e) => some ⟨h, ⟨t, params⟩, .error e⟩
  | .rollback _ t params h answer => some ⟨h, ⟨t, params⟩, answer⟩
  | _ => none

theorem started?_silent {step : Step} (h : step.phase? ≠ some .launch) : step.started? = none := by
  unfold started?
  split
  · exact (h rfl).elim
  · rfl

theorem undoBegun?_silent {step : Step} (h : step.phase? ≠ some .undo) :
    step.undoBegun? = none := by
  unfold undoBegun?
  split
  · exact (h rfl).elim
  · rfl

theorem undoEnded?_silent {step : Step} (h : step.phase? ≠ some .undo) :
    step.undoEnded? = none := by
  unfold undoEnded?
  split
  · exact (h rfl).elim
  · exact (h rfl).elim
  · rfl

end Step

def Attempt.outcome (a : Attempt) : String × Bool × Option String :=
  match a.answer with
  | .ok () => (a.handle.skill, true, none)
  | .error e => (a.handle.skill, false, some (Error.rollback a.handle.skill e).message)

def RollbackRecord.outcome (r : RollbackRecord) : String × Bool × Option String :=
  (r.skill, r.success, r.error)

theorem Attempt.outcome_record (a : Attempt) (took : Duration) :
    (a.record took).outcome = a.outcome := by
  obtain ⟨h, l, answer⟩ := a
  cases answer <;> rfl

/-- Started actions have handles that bear the name of their skill and an identifier of their
own. -/
structure OwnHandles (steps : List Step) : Prop where
  named : ∀ name t params h, Step.execute name t params (.ok h) ∈ steps → h.skill = name
  distinct : ((steps.filterMap Step.started?).map fun e => e.1.id).Nodup

/-- Each started action has been undone once, the last one first, and the report tells of it. -/
structure Reversed (steps : List Step) (rollback : List RollbackRecord) : Prop where
  begun : steps.filterMap Step.undoBegun? = (steps.filterMap Step.started?).reverse
  ended : (steps.filterMap Step.undoEnded?).map Attempt.aim =
    (steps.filterMap Step.started?).reverse
  once : ((steps.filterMap Step.undoBegun?).map fun e => e.1.id).Nodup
  own : ∀ name t params h answer, Step.rollback name t params h answer ∈ steps → h.skill = name
  told : rollback.map RollbackRecord.outcome =
    (steps.filterMap Step.undoEnded?).map Attempt.outcome

theorem lookup_of_mem {α β : Type} [BEq α] [LawfulBEq α] {k : α} {v : β} {entries : List (α × β)}
    (distinct : (entries.map Prod.fst).Nodup) (h : (k, v) ∈ entries) :
    entries.lookup k = some v := by
  obtain ⟨before, rest, rfl⟩ := List.append_of_mem h
  rw [List.map_append, List.nodup_append] at distinct
  rw [List.lookup_eq_some_iff]
  refine ⟨before, rest, rfl, ?_⟩
  intro e he
  have := distinct.2.2 e.1 (List.mem_map.2 ⟨e, he, rfl⟩) k (by simp)
  simpa using Ne.symm this

namespace Session

variable {W S : Type} {session : Session W S} {id : Uuid} {launches : List (Uuid × Launch)}

theorem Launching.filterMap_started? {u v : W} {a : List Step} {q : List ExecutionRecord}
    {m : List (Handle × Launch)} (h : session.Launching id u a q m v) :
    a.filterMap Step.started? = m := by
  have told (what : Occurrence) : (session.announcement id what).filterMap Step.started? = [] :=
    (ofPhase_announcement .setup what).filterMap_eq_nil (by decide) fun _ => Step.started?_silent
  induction h with
  | nil => rfl
  | append _ _ ha hb => rw [List.filterMap_append, ha, hb]
  | checked | unconnected => rfl
  | refused | started => rw [List.filterMap_append, told]; rfl

theorem Launching.execute_mem {u v : W} {a : List Step} {q : List ExecutionRecord}
    {m : List (Handle × Launch)} (h : session.Launching id u a q m v) :
    ∀ e ∈ m, ∃ name skill, session.agent.skill? name = some skill ∧
      Step.execute name e.2.target e.2.params (.ok e.1) ∈ a := by
  induction h with
  | nil | checked | unconnected | refused =>
    intro e he
    cases he
  | append _ _ ha hb =>
    intro e he
    rcases List.mem_append.1 he with he | he
    · obtain ⟨name, skill, known, hx⟩ := ha e he
      exact ⟨name, skill, known, List.mem_append_left _ hx⟩
    · obtain ⟨name, skill, known, hx⟩ := hb e he
      exact ⟨name, skill, known, List.mem_append_right _ hx⟩
  | started _ known =>
    intro e he
    rw [List.mem_singleton] at he
    subst he
    have name := Agent.name_of_skill? known
    refine ⟨_, _, known, ?_⟩
    rw [name]
    simp

theorem Undoing.filterMap_undoBegun? {u v : W} {a : List Step} {q : List RollbackRecord}
    {m : List Attempt} (h : session.Undoing id launches u a q m v) :
    a.filterMap Step.undoBegun? = m.map Attempt.aim := by
  have told (what : Occurrence) : (session.announcement id what).filterMap Step.undoBegun? = [] :=
    (ofPhase_announcement .setup what).filterMap_eq_nil (by decide) fun _ => Step.undoBegun?_silent
  induction h with
  | nil => rfl
  | append _ _ ha hb => rw [List.filterMap_append, List.map_append, ha, hb]
  | unconnected | answered => rw [List.filterMap_append, told]; rfl

theorem Undoing.filterMap_undoEnded? {u v : W} {a : List Step} {q : List RollbackRecord}
    {m : List Attempt} (h : session.Undoing id launches u a q m v) :
    a.filterMap Step.undoEnded? = m := by
  have told (what : Occurrence) : (session.announcement id what).filterMap Step.undoEnded? = [] :=
    (ofPhase_announcement .setup what).filterMap_eq_nil (by decide) fun _ => Step.undoEnded?_silent
  induction h with
  | nil => rfl
  | append _ _ ha hb => rw [List.filterMap_append, ha, hb]
  | unconnected | answered => rw [List.filterMap_append, told]; rfl

theorem Undoing.outcomes {u v : W} {a : List Step} {q : List RollbackRecord} {m : List Attempt}
    (h : session.Undoing id launches u a q m v) :
    q.map RollbackRecord.outcome = m.map Attempt.outcome := by
  induction h with
  | nil => rfl
  | append _ _ ha hb => rw [List.map_append, List.map_append, ha, hb]
  | unconnected | answered => simp [Attempt.outcome_record]

theorem Undoing.own {u v : W} {a : List Step} {q : List RollbackRecord} {m : List Attempt}
    (h : session.Undoing id launches u a q m v) (name : String) (t : Target) (params : Yaml.Value)
    (handle : Handle) (answer : Except Error Unit)
    (mem : Step.rollback name t params handle answer ∈ a) : handle.skill = name := by
  induction h with
  | nil => cases mem
  | append _ _ ha hb => exact (List.mem_append.1 mem).elim ha hb
  | unconnected => simp [announcement] at mem
  | answered _ known =>
    have := Agent.name_of_skill? known
    simp [announcement] at mem
    rw [mem.1, this, mem.2.2.2.1]

namespace Course

variable {x : Experiment} {world : W} {now : Instant} {report : Report} {s : RunState W}

theorem started_eq (c : session.Course id x world now report s) :
    s.steps.filterMap Step.started? = c.started := by
  rw [c.filterMap_part .launch fun _ => Step.started?_silent]
  exact c.launches.filterMap_started?

theorem ended_eq (c : session.Course id x world now report s) :
    s.steps.filterMap Step.undoEnded? = c.attempts := by
  rw [c.filterMap_part .undo fun _ => Step.undoEnded?_silent]
  exact c.undoes.filterMap_undoEnded?

theorem aim?_of_started (c : session.Course id x world now report s) (own : OwnHandles s.steps) :
    ∀ e ∈ c.started, session.aim? s.launches e.1 = some e := by
  intro e he
  obtain ⟨name, skill, known, hx⟩ := c.launches.execute_mem e he
  have mem : Step.execute name e.2.target e.2.params (.ok e.1) ∈ s.steps := by
    rw [c.steps]
    simp [hx]
  -- Identifiers differ, so no other launch hides the one that is looked up.
  have distinct : (s.launches.map Prod.fst).Nodup := by
    have := own.distinct
    rw [c.started_eq] at this
    rw [c.launches_eq, List.map_reverse, List.nodup_reverse, List.map_map]
    exact this
  have aimed : s.launches.lookup e.1.id = some e.2 := by
    apply lookup_of_mem distinct
    rw [c.launches_eq, List.mem_reverse]
    exact List.mem_map.2 ⟨e, he, rfl⟩
  rw [← own.named _ _ _ _ mem] at known
  simp [aim?, known, aimed]

theorem attempts_eq (c : session.Course id x world now report s) (own : OwnHandles s.steps) :
    c.attempts.map Attempt.aim = c.started.reverse := by
  calc c.attempts.map Attempt.aim
      = (c.started.map Prod.fst).reverse.filterMap (session.aim? s.launches) := by
        rw [c.reversed, c.log_eq]
    _ = (c.started.filterMap fun e => session.aim? s.launches e.1).reverse := by
        rw [List.filterMap_reverse, List.filterMap_map]
        rfl
    _ = (c.started.filterMap some).reverse := by
        rw [List.filterMap_congr (c.aim?_of_started own)]
    _ = c.started.reverse := by rw [List.filterMap_some]

theorem reversal (c : session.Course id x world now report s) (own : OwnHandles s.steps) :
    Reversed s.steps report.rollback := by
  have begun : s.steps.filterMap Step.undoBegun? = c.attempts.map Attempt.aim := by
    rw [c.filterMap_part .undo fun _ => Step.undoBegun?_silent]
    exact c.undoes.filterMap_undoBegun?
  have ended := c.ended_eq
  have attempts := c.attempts_eq own
  have started := c.started_eq
  constructor
  · rw [begun, attempts, started]
  · rw [ended, attempts, started]
  · have := own.distinct
    rw [begun, attempts, List.map_reverse, List.nodup_reverse, ← started]
    exact this
  · intro name t params h answer mem
    exact c.undoes.own name t params h answer (c.mem_part mem rfl)
  · rw [ended, c.undoes.outcomes]

end Course

theorem reported_of_discovered {x : Experiment} {world : W} {now : Instant} {ending : RunEnd}
    {s : RunState W} (h : session.run id x world now = (ending, s))
    (discovered : ∃ targets, .discover (.ok targets) ∈ s.steps) (counted : ending ≠ .aborted .clockOverflow) :
    ∃ report, ending = .reported report := by
  obtain ⟨targets, mem⟩ := discovered
  have unannounced (what : Occurrence) : .discover (.ok targets) ∉ session.announcement id what := by
    simp [announcement]
  cases ending with
  | reported report => exact ⟨report, rfl⟩
  | refused e =>
    obtain ⟨a, refusing, steps⟩ := refusing_of_run h
    rw [steps] at mem
    rcases List.mem_append.1 mem with told | later
    · exact (unannounced _ told).elim
    · cases refusing <;> simp at later
  | aborted why =>
    cases why with
    | clockOverflow => exact (counted rfl).elim
    | endless =>
      obtain ⟨a, searching, steps⟩ := searching_of_run h
      rw [steps] at mem
      rcases List.mem_append.1 mem with told | later
      · exact (unannounced _ told).elim
      · cases searching with
        | ready => cases later
        | prepared => simp at later

/-- A run that gets beyond the discovery is reported, and undoes what it has started. -/
theorem started_undone_once_in_reverse {x : Experiment} {world : W} {now : Instant}
    {ending : RunEnd} {s : RunState W} (h : session.run id x world now = (ending, s))
    (discovered : ∃ targets, .discover (.ok targets) ∈ s.steps) (counted : ending ≠ .aborted .clockOverflow)
    (own : OwnHandles s.steps) :
    ∃ report, ending = .reported report ∧ Reversed s.steps report.rollback := by
  obtain ⟨report, rfl⟩ := reported_of_discovered h discovered counted
  obtain ⟨c⟩ := run_course h
  exact ⟨report, rfl, c.reversal own⟩

end Session

def interrupted : Experiment where
  name := "interrupted"
  skills := [⟨"dim", ⟨.lambda, .empty⟩, .null, 2⟩, ⟨"flood", ⟨.lambda, .empty⟩, .null, 1⟩]
  duration := rehearsalTime

theorem steps_interrupted : ((rehearsal 0).run ⟨7⟩ interrupted 0 .zero).2.steps =
    let a : Target := ⟨"a", "A", .lambda, .empty⟩
    let b : Target := ⟨"b", "B", .lambda, .empty⟩
    let first : Handle := ⟨⟨0⟩, "dim", "a", .epoch, .null⟩
    let second : Handle := ⟨⟨1⟩, "dim", "b", .epoch, .null⟩
    [.discover (.ok [a, b]), .validate "dim" .null (.ok ()),
      .connect .execute a .null (.ok ()), .execute "dim" a .null (.ok first),
      .connect .execute b .null (.ok ()), .execute "dim" b .null (.ok second),
      .connect (.rollback second) b .null (.ok ()),
      .rollback "dim" b .null second (.error (.other "stuck")),
      .connect (.rollback first) a .null (.ok ()), .rollback "dim" a .null first (.ok ())] := by
  rfl

theorem interrupted_undone_in_reverse :
    ∃ report, ((rehearsal 0).run ⟨7⟩ interrupted 0 .zero).1 = .reported report ∧
      Reversed ((rehearsal 0).run ⟨7⟩ interrupted 0 .zero).2.steps report.rollback := by
  obtain ⟨report, reported⟩ :
      ∃ report, ((rehearsal 0).run ⟨7⟩ interrupted 0 .zero).1 = .reported report := ⟨_, by rfl⟩
  have run : (rehearsal 0).run ⟨7⟩ interrupted 0 .zero =
    (((rehearsal 0).run ⟨7⟩ interrupted 0 .zero).1, ((rehearsal 0).run ⟨7⟩ interrupted 0 .zero).2) := rfl
  apply Session.started_undone_once_in_reverse run
  · rw [steps_interrupted]
    exact ⟨_, List.mem_cons_self⟩
  · simp [reported]
  · rw [steps_interrupted]
    constructor
    · intro name t params h mem
      simp only [List.mem_cons, List.not_mem_nil, or_false, reduceCtorEq, false_or] at mem
      rcases mem with mem | mem <;> cases mem <;> rfl
    · decide

end GameDay
