import GameDay.Proofs.Experiment.Course

namespace GameDay

inductive Phase
  | setup
  | launch
  | poll
  | undo
deriving DecidableEq

def Step.phase? : Step → Option Phase
  | .prepare _ | .discover _ => some .setup
  | .validate .. | .execute .. | .connect .execute .. => some .launch
  | .poll .. | .connect (.poll _) .. => some .poll
  | .rollback .. | .connect (.rollback _) .. => some .undo
  | .event .. => none

def OfPhase (p : Phase) (steps : List Step) : Prop :=
  ∀ step ∈ steps, step.phase? = some p ∨ step.phase? = none

namespace OfPhase

variable {p : Phase} {a b : List Step}

theorem append (ha : OfPhase p a) (hb : OfPhase p b) : OfPhase p (a ++ b) := by
  intro step h
  rw [List.mem_append] at h
  exact h.elim (ha step) (hb step)

theorem nil : OfPhase p [] := by
  intro step h
  cases h

theorem filterMap_eq_nil {α : Type} {q : Phase} {f : Step → Option α} (h : OfPhase p a) (ne : p ≠ q)
    (silent : ∀ step, step.phase? ≠ some q → f step = none) : a.filterMap f = [] := by
  rw [List.filterMap_eq_nil_iff]
  intro step hs
  apply silent
  rcases h step hs with hp | hp <;> simp [hp, ne]

end OfPhase

namespace Session

variable {W S : Type} {session : Session W S} {id : Uuid}

theorem ofPhase_announcement (p : Phase) (what : Occurrence) :
    OfPhase p (session.announcement id what) := by
  intro step h
  obtain ⟨i, _, rfl⟩ := List.mem_map.1 h
  exact .inr rfl

theorem Preparing.ofPhase {u v : W} {a : List Step} {targets : List Target}
    (h : session.Preparing u a targets v) : OfPhase .setup a := by
  intro step hs
  cases h <;> simp at hs <;> rcases hs with rfl | rfl <;> exact .inl rfl

theorem Refusing.ofPhase {u v : W} {a : List Step} {e : Error} (h : session.Refusing u a e v) :
    OfPhase .setup a := by
  intro step hs
  cases h <;> simp at hs
  · exact .inl (by rw [hs]; rfl)
  · exact .inl (by rw [hs]; rfl)
  · rcases hs with rfl | rfl <;> exact .inl rfl

theorem Searching.ofPhase {u v : W} {a : List Step} (h : session.Searching u a v) : OfPhase .setup a := by
  cases h with
  | ready => exact .nil
  | prepared => simp [OfPhase, Step.phase?]

theorem ofPhase_setup {x : Experiment} {world : W} {now : Instant} {ending : RunEnd} {s : RunState W}
    (h : session.run id x world now = (ending, s))
    (unfound : (∃ e, ending = .refused e) ∨ ending = .aborted .endless) : OfPhase .setup s.steps := by
  rcases unfound with ⟨e, rfl⟩ | rfl
  · obtain ⟨a, refusing, steps⟩ := refusing_of_run h
    rw [steps]
    exact (ofPhase_announcement _ _).append refusing.ofPhase
  · obtain ⟨a, searching, steps⟩ := searching_of_run h
    rw [steps]
    exact (ofPhase_announcement _ _).append searching.ofPhase

theorem Launching.ofPhase {u v : W} {a : List Step} {q : List ExecutionRecord}
    {m : List (Handle × Launch)} (h : session.Launching id u a q m v) : OfPhase .launch a := by
  induction h with
  | nil => exact .nil
  | append _ _ ha hb => exact ha.append hb
  | checked | unconnected =>
    intro step hs
    rw [List.mem_singleton] at hs
    subst hs
    exact .inl rfl
  | refused | started =>
    refine OfPhase.append ?_ (ofPhase_announcement _ _)
    intro step hs
    simp only [List.mem_cons, List.not_mem_nil, or_false] at hs
    rcases hs with rfl | rfl <;> exact .inl rfl

variable {launches : List (Uuid × Launch)}

theorem Polled.ofPhase {u v : W} {a : List Step} {h : Handle} {status : SkillStatus}
    (p : session.Polled launches h u a status v) : OfPhase .poll a := by
  intro step hs
  cases p <;> simp at hs <;> rcases hs with rfl | rfl <;> exact .inl rfl

theorem Polling.ofPhase {u v : W} {a : List Step} {m : List Handle} {f : Option (Handle × String)}
    (h : session.Polling id launches u a m f v) : OfPhase .poll a := by
  induction h with
  | nil | slept => exact .nil
  | append _ _ ha hb => exact ha.append hb
  | running p => exact p.ofPhase
  | completed p | failed p => exact p.ofPhase.append (ofPhase_announcement _ _)

theorem Waiting.ofPhase {x : Experiment} {targets : List Target} {began : RunState W} {u v : W}
    {a : List Step} {m : List Handle} {f : Option (Handle × String)} {failure : Option String}
    (h : session.Waiting id x targets began launches u a m f failure v) : OfPhase .poll a := by
  cases h with
  | skipped => exact ofPhase_announcement _ _
  | elapsed _ _ p => exact (ofPhase_announcement _ _).append p.ofPhase
  | failed _ _ p =>
    exact ((ofPhase_announcement _ _).append p.ofPhase).append (ofPhase_announcement _ _)

theorem Undoing.ofPhase {u v : W} {a : List Step} {q : List RollbackRecord} {m : List Attempt}
    (h : session.Undoing id launches u a q m v) : OfPhase .undo a := by
  induction h with
  | nil => exact .nil
  | append _ _ ha hb => exact ha.append hb
  | unconnected | answered =>
    refine OfPhase.append ?_ (ofPhase_announcement _ _)
    intro step hs
    simp only [List.mem_cons, List.not_mem_nil, or_false] at hs
    rcases hs with rfl | rfl <;> exact .inl rfl

namespace Course

variable {x : Experiment} {world : W} {now : Instant} {report : Report} {s : RunState W} {α : Type}
  {f : Step → Option α}

def part (c : session.Course id x world now report s) : Phase → List Step
  | .setup => c.preparing
  | .launch => c.launching
  | .poll => c.waiting
  | .undo => c.undoing

theorem ofPhase_part (c : session.Course id x world now report s) (p : Phase) :
    OfPhase p (c.part p) := by
  cases p with
  | setup => exact c.prepares.ofPhase
  | launch => exact c.launches.ofPhase
  | poll => exact c.waits.ofPhase
  | undo => exact c.undoes.ofPhase

theorem filterMap_part (c : session.Course id x world now report s) (p : Phase)
    (silent : ∀ step, step.phase? ≠ some p → f step = none) :
    s.steps.filterMap f = (c.part p).filterMap f := by
  have told (what : Occurrence) : (session.announcement id what).filterMap f = [] := by
    rw [List.filterMap_eq_nil_iff]
    intro step h
    obtain ⟨i, _, rfl⟩ := List.mem_map.1 h
    exact silent _ (by simp [Step.phase?])
  have other (q : Phase) (ne : q ≠ p) : (c.part q).filterMap f = [] :=
    (c.ofPhase_part q).filterMap_eq_nil ne silent
  -- Announcements are not seen, and neither are the other three parts.
  have all : s.steps.filterMap f = (c.part .setup).filterMap f ++ ((c.part .launch).filterMap f ++
      ((c.part .poll).filterMap f ++ (c.part .undo).filterMap f)) := by
    rw [c.steps]
    simp only [List.filterMap_append, told, List.nil_append, List.append_nil, part]
  rw [all]
  cases p with
  | setup => simp [other .launch, other .poll, other .undo]
  | launch => simp [other .setup, other .poll, other .undo]
  | poll => simp [other .setup, other .launch, other .undo]
  | undo => simp [other .setup, other .launch, other .poll]

theorem mem_part (c : session.Course id x world now report s) {p : Phase} {step : Step}
    (mem : step ∈ s.steps) (phase : step.phase? = some p) : step ∈ c.part p := by
  have same := c.filterMap_part p (f := fun step => if step.phase? = some p then some step else none)
    fun step ne => if_neg ne
  have seen : step ∈ s.steps.filterMap fun step => if step.phase? = some p then some step else none :=
    List.mem_filterMap.2 ⟨step, mem, if_pos phase⟩
  rw [same] at seen
  obtain ⟨step', mem', h⟩ := List.mem_filterMap.1 seen
  split at h
  · cases h
    exact mem'
  · cases h

end Course

end Session

end GameDay
