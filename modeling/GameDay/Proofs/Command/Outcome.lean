import GameDay.Command.Run
import GameDay.Proofs.Experiment.Conclusion
import GameDay.Proofs.Experiment.Events

/-!
What a step of a session comes to. It is refused if the agent cannot be got ready or discovers
nothing, and never ends if the agent's search does not, and in both cases nothing has been done to any
target. Otherwise there is a report, which says whether the run was troubled, and which is kept through all
later steps.
-/

namespace GameDay

namespace Session

variable {W S : Type} (session : Session W S) (id : Uuid) (x : Experiment)

inductive Outcome (before : SessionState W) (s : RunState W) (after : SessionState W) : RunEnd → Prop
  | refused {a : List Step} {e : Error} (refusing : session.Refusing before.world a e s.world)
      (quiet : OfPhase .setup s.steps) (kept : after.reports = before.reports) :
      Outcome before s after (.refused e)
  | endless {a : List Step} (searching : session.Searching before.world a s.world)
      (quiet : OfPhase .setup s.steps) (kept : after.reports = before.reports) :
      Outcome before s after (.aborted .endless)
  | reported {report : Report} {targets : List Target}
      (found : Step.discover (.ok targets) ∈ s.steps)
      (completed : report.status = "completed" ↔ session.Untroubled targets x.skills s.steps)
      (failed : report.status ≠ "completed" → ∃ text, report.status = "failed: " ++ text ∧
        session.FirstFailure targets x.skills s.steps text)
      (stored : ∀ later : List (Uuid × Experiment), (∀ y ∈ later, y.1 ≠ id) →
        (Command.runEach session later after).2.report? id = some report) :
      Outcome before s after (.reported report)

variable {session id x} {world : W} {now : Instant} {s : RunState W} {before after : SessionState W}

theorem refused_of_prepare {e : Error} {v : W} (unready : session.agent.status world ≠ .ready)
    (p : Gives session.agent.prepare world (.error e) v) :
    (session.run id x world now).1 = .refused e := by
  simp only [run, prepare, world_emit, if_neg unready, RunState.call, p.answer]

variable (session) in
def GotReady (u v : W) : Prop :=
  (session.agent.status u = .ready ∧ v = u) ∨
    (session.agent.status u ≠ .ready ∧ Gives session.agent.prepare u (.ok ()) v)

section GotReady

variable {v : W} (h : session.GotReady world v)
include h

theorem GotReady.prepared {s : RunState W} (begun : s.world = world) :
    ∃ s', session.prepare s = (.ok (), s') ∧ s'.world = v := by
  subst begun
  unfold prepare
  rcases h with ⟨ready, rfl⟩ | ⟨unready, p⟩
  · exact ⟨s, if_pos ready, rfl⟩
  · rw [if_neg unready]
    exact ⟨_, Prod.ext p.answer rfl, p.world⟩

theorem GotReady.refused {e : Error} {w : W} (d : session.agent.Discovers v (.error e) w) :
    (session.run id x world now).1 = .refused e := by
  obtain ⟨s, prepares, rfl⟩ := h.prepared (world_emit session id (.started (session.agent.wallClock world))
    { world, now })
  obtain ⟨took, answered⟩ := d
  simp only [run, prepares, discover, answered, Option.map_some, RunState.call]

theorem GotReady.endless (d : session.agent.discover v = none) :
    (session.run id x world now).1 = .aborted .endless := by
  obtain ⟨s, prepares, rfl⟩ := h.prepared (world_emit session id (.started (session.agent.wallClock world))
    { world, now })
  simp only [run, prepares, discover, d, Option.map_none]

end GotReady

theorem Refusing.refused {a : List Step} {e : Error} {v : W} (h : session.Refusing world a e v) :
    (session.run id x world now).1 = .refused e := by
  cases h with
  | unready unready p => exact refused_of_prepare unready p
  | ready ready d => exact GotReady.refused (.inl ⟨ready, rfl⟩) d
  | prepared unready p d => exact GotReady.refused (.inr ⟨unready, p⟩) d

theorem Searching.endless {a : List Step} {v : W} (h : session.Searching world a v) :
    (session.run id x world now).1 = .aborted .endless := by
  cases h with
  | ready ready d => exact GotReady.endless (.inl ⟨ready, rfl⟩) d
  | prepared unready p d => exact GotReady.endless (.inr ⟨unready, p⟩) d

def keep (id : Uuid) (reports : List (Uuid × Report)) : RunEnd → List (Uuid × Report)
  | .reported report => (id, report) :: reports
  | .refused _ | .aborted _ => reports

theorem run_of_step {ending : RunEnd} (h : session.step id x before = (ending, s, after)) :
    session.run id x before.world before.now = (ending, s) ∧
      after.reports = keep id before.reports ending := by
  obtain ⟨ending, s, run⟩ : ∃ ending s, session.run id x before.world before.now = (ending, s) :=
    ⟨_, _, rfl⟩
  unfold step at h
  rw [run] at h
  cases h
  exact ⟨run, by cases ending <;> rfl⟩

theorem report?_step {other : Uuid} {ending : RunEnd}
    (h : session.step other x before = (ending, s, after)) (differ : id ≠ other) :
    after.report? id = before.report? id := by
  unfold SessionState.report?
  rw [(run_of_step h).2]
  cases ending with
  | reported report =>
    have unequal : (id == other) = false := by simpa using differ
    simp only [keep, List.lookup_cons, unequal]
  | refused | aborted => rfl

theorem report?_runEach {later : List (Uuid × Experiment)} (ne : ∀ y ∈ later, y.1 ≠ id) :
    (Command.runEach session later after).2.report? id = after.report? id := by
  induction later generalizing after with
  | nil => rfl
  | cons y later ih =>
    obtain ⟨other, y⟩ := y
    have differ : id ≠ other := (ne (other, y) List.mem_cons_self).symm
    have rest : ∀ y ∈ later, y.1 ≠ id := fun y h => ne y (List.mem_cons_of_mem _ h)
    obtain ⟨ending, s, next, h⟩ : ∃ ending s next, session.step other y after = (ending, s, next) :=
      ⟨_, _, _, rfl⟩
    have kept := report?_step h differ
    cases ending with
    | aborted why => simpa only [Command.runEach, h] using kept
    | reported report =>
      simp only [Command.runEach, h]
      exact (ih rest).trans kept
    | refused e =>
      simp only [Command.runEach, h]
      exact (ih rest).trans kept

theorem outcome_refused {e : Error} (h : session.step id x before = (.refused e, s, after)) :
    session.Outcome id x before s after (.refused e) := by
  obtain ⟨run, reports⟩ := run_of_step h
  obtain ⟨a, refusing, _⟩ := refusing_of_run run
  exact .refused refusing (ofPhase_setup run (.inl ⟨e, rfl⟩)) reports

theorem outcome_endless (h : session.step id x before = (.aborted .endless, s, after)) :
    session.Outcome id x before s after (.aborted .endless) := by
  obtain ⟨run, reports⟩ := run_of_step h
  obtain ⟨a, searching, _⟩ := searching_of_run run
  exact .endless searching (ofPhase_setup run (.inr rfl)) reports

theorem outcome_reported {report : Report}
    (h : session.step id x before = (.reported report, s, after)) :
    session.Outcome id x before s after (.reported report) := by
  obtain ⟨run, reports⟩ := run_of_step h
  have stored : after.report? id = some report := by
    unfold SessionState.report?
    rw [reports]
    exact List.lookup_cons_self
  obtain (⟨e, refused⟩ | endless) | ⟨targets, ⟨p⟩⟩ := run_passes run
  · cases refused
  · cases endless
  · have concluded := p.concluded
    refine .reported p.mem_discover ?_ ?_ fun later ne => (report?_runEach ne).trans stored
    · cases concluded with
      | completed untroubled status => exact iff_of_true status untroubled
      | failed failure status =>
        refine iff_of_false ?_ failure.not_untroubled
        rw [status]
        exact (label_completed_ne _).symm
    · intro troubled
      cases concluded with
      | completed _ status => exact (troubled status).elim
      | failed failure status => exact ⟨_, status, failure⟩

/-- A step is refused exactly if there is an error before anything is launched, and never ends exactly if the
search for targets does not. Its report tells whether anything went wrong later, and what did first. -/
theorem outcome_of_step {ending : RunEnd} (h : session.step id x before = (ending, s, after))
    (counted : ending ≠ .aborted .clockOverflow) :
    (∀ e, ending = .refused e ↔ ∃ a v, session.Refusing before.world a e v) ∧
      (ending = .aborted .endless ↔ ∃ a v, session.Searching before.world a v) ∧
      session.Outcome id x before s after ending := by
  obtain ⟨run, _⟩ := run_of_step h
  have outcome : session.Outcome id x before s after ending := by
    rcases ending with report | e | why
    · exact outcome_reported h
    · exact outcome_refused h
    · cases why with
      | clockOverflow => exact (counted rfl).elim
      | endless => exact outcome_endless h
  have refuses {a : List Step} {e : Error} {v : W} (refusing : session.Refusing before.world a e v) :
      ending = .refused e := by
    have refused : (session.run id x before.world before.now).1 = .refused e := refusing.refused
    rw [← refused, run]
  have never {a : List Step} {v : W} (searching : session.Searching before.world a v) :
      ending = .aborted .endless := by
    have endless : (session.run id x before.world before.now).1 = .aborted .endless := searching.endless
    rw [← endless, run]
  refine ⟨fun e => ⟨?_, fun ⟨a, v, refusing⟩ => refuses refusing⟩,
    ⟨?_, fun ⟨a, v, searching⟩ => never searching⟩, outcome⟩
  · rintro rfl
    cases outcome with
    | refused refusing => exact ⟨_, _, refusing⟩
  · rintro rfl
    cases outcome with
    | endless searching => exact ⟨_, _, searching⟩

end Session

theorem darkened_outcome : ∃ report s after,
    (rehearsal 1).step ⟨7⟩ darkened { world := 0 } = (.reported report, s, after) ∧
      (rehearsal 1).Outcome ⟨7⟩ darkened { world := 0 } s after (.reported report) := by
  obtain ⟨report, reported⟩ :
      ∃ report, ((rehearsal 1).run ⟨7⟩ darkened 0 .zero).1 = .reported report := ⟨_, by rfl⟩
  obtain ⟨ending, s, after, step⟩ : ∃ ending s after,
      (rehearsal 1).step ⟨7⟩ darkened { world := 0 } = (ending, s, after) := ⟨_, _, _, rfl⟩
  have run := (Session.run_of_step step).1
  rw [run] at reported
  cases reported
  exact ⟨report, s, after, step, (Session.outcome_of_step step (by simp)).2.2⟩

end GameDay
