import GameDay.Experiment.Run
import GameDay.Proofs.Experiment.Launching
import GameDay.Proofs.Experiment.Rounds
import GameDay.Proofs.Experiment.Soaking
import GameDay.Proofs.Experiment.Undoing

namespace GameDay

namespace Session

variable {W S : Type} (session : Session W S) (id : Uuid)

inductive Preparing : W → List Step → List Target → W → Prop
  | ready {u v : W} {targets : List Target} (status : session.agent.status u = .ready)
      (d : session.agent.Discovers u (.ok targets) v) :
      Preparing u [.discover (.ok targets)] targets v
  | prepared {u v w : W} {targets : List Target} (status : session.agent.status u ≠ .ready)
      (p : Gives session.agent.prepare u (.ok ()) v)
      (d : session.agent.Discovers v (.ok targets) w) :
      Preparing u [.prepare (.ok ()), .discover (.ok targets)] targets w

inductive Refusing : W → List Step → Error → W → Prop
  | unready {u v : W} {e : Error} (status : session.agent.status u ≠ .ready)
      (p : Gives session.agent.prepare u (.error e) v) : Refusing u [.prepare (.error e)] e v
  | ready {u v : W} {e : Error} (status : session.agent.status u = .ready)
      (d : session.agent.Discovers u (.error e) v) : Refusing u [.discover (.error e)] e v
  | prepared {u v w : W} {e : Error} (status : session.agent.status u ≠ .ready)
      (p : Gives session.agent.prepare u (.ok ()) v)
      (d : session.agent.Discovers v (.error e) w) :
      Refusing u [.prepare (.ok ()), .discover (.error e)] e w

inductive Searching : W → List Step → W → Prop
  | ready {u : W} (status : session.agent.status u = .ready) (d : session.agent.discover u = none) :
      Searching u [] u
  | prepared {u v : W} (status : session.agent.status u ≠ .ready)
      (p : Gives session.agent.prepare u (.ok ()) v) (d : session.agent.discover v = none) :
      Searching u [.prepare (.ok ())] v

inductive Waiting (x : Experiment) (targets : List Target) (began : RunState W)
    (launches : List (Uuid × Launch)) :
    W → List Step → List Handle → Option (Handle × String) → Option String → W → Prop
  | skipped {e : Error} {s : RunState W} (w : W)
      (launch : session.launch id targets x.skills began = (.error e, s)) :
      Waiting x targets began launches w (session.announcement id (.failed e.message)) [] none
        (some e.message) w
  | elapsed {s s' : RunState W} {u v : W} {a : List Step} {m : List Handle}
      (launch : session.launch id targets x.skills began = (.ok (), s))
      (soak : session.soak id x.duration (session.emit id (.waitBegun x.duration) s) = (.over, s'))
      (p : session.Polling id launches u a m none v) :
      Waiting x targets began launches u (session.announcement id (.waitBegun x.duration) ++ a) m
        none none v
  | failed {s s' : RunState W} {u v : W} {a : List Step} {m : List Handle} {f : Handle × String}
      (launch : session.launch id targets x.skills began = (.ok (), s))
      (soak : session.soak id x.duration (session.emit id (.waitBegun x.duration) s) =
        (.failed (failureText f), s'))
      (p : session.Polling id launches u a m (some f) v) :
      Waiting x targets began launches u
        (session.announcement id (.waitBegun x.duration) ++ a ++
          session.announcement id (.failed (failureText f)))
        m (some f) (some (failureText f)) v

structure Waits (x : Experiment) (targets : List Target) (began s s' : RunState W)
    (completed : List Handle) (failed : Option (Handle × String)) (failure : Option String) :
    Prop where
  waiting : ∃ steps w,
    session.Waiting id x targets began s.launches s.world steps completed failed failure w ∧
    s'.world = w ∧ s'.steps = s.steps ++ steps
  ledger : s'.ledger = s.ledger
  ends : ∀ h ∈ ended completed failed, h ∈ s.log
  once : ((ended completed failed).map (·.id)).Nodup

structure Reports (targets : List Target) (startedAt : Timestamp) (failure : Option String)
    (undoing : List Step) (attempts : List Attempt) (report : Report) (s s' : RunState W) :
    Prop where
  undoes : session.Undoing id s.launches s.world undoing report.rollback attempts s'.world
  steps : s'.steps = s.steps ++ (session.announcement id .rollbackStarted ++ (undoing ++
    session.announcement id (.completed report.completedAt)))
  ledger : s'.ledger = s.ledger
  reversed : attempts.map Attempt.aim = s.log.reverse.filterMap (session.aim? s.launches)
  executions : report.executions = s.executions
  reportId : report.id = id
  reportTargets : report.targets = targets.map Target.summary
  startedAt : report.startedAt = startedAt
  status : report.status = (finalStatus failure).label

structure Course (x : Experiment) (world : W) (now : Instant) (report : Report) (s : RunState W)
    where
  preparing : List Step
  launching : List Step
  waiting : List Step
  undoing : List Step
  targets : List Target
  started : List (Handle × Launch)
  completed : List Handle
  failed : Option (Handle × String)
  failure : Option String
  attempts : List Attempt
  began : RunState W
  found : W
  launched : W
  waited : W
  runs : session.run id x world now =
    session.runOn id x (session.agent.wallClock world) now targets began
  prepares : session.Preparing world preparing targets found
  launches : session.Launching id found launching report.executions started launched
  waits : session.Waiting id x targets began s.launches launched waiting completed failed failure
    waited
  undoes : session.Undoing id s.launches waited undoing report.rollback attempts s.world
  steps : s.steps = session.announcement id (.started (session.agent.wallClock world)) ++
    (preparing ++ (session.announcement id (.targetsDiscovered targets.length) ++ (launching ++
      (waiting ++ (session.announcement id .rollbackStarted ++ (undoing ++
        session.announcement id (.completed report.completedAt)))))))
  ledger : s.ledger = Ledger.empty.add report.executions started
  ends : ∀ h ∈ ended completed failed, h ∈ s.log
  once : ((ended completed failed).map (·.id)).Nodup
  reversed : attempts.map Attempt.aim = s.log.reverse.filterMap (session.aim? s.launches)
  reportId : report.id = id
  reportTargets : report.targets = targets.map Target.summary
  startedAt : report.startedAt = session.agent.wallClock world
  status : report.status = (finalStatus failure).label

variable {session id} {x : Experiment} {targets : List Target} {s s' : RunState W}

theorem disturb_phases {failure : Option String} {soak : Duration}
    (hd : session.disturb id x targets s = (.ok failure, soak, s')) :
    ∃ s₁ m f, session.Launches id s s₁ ∧ session.Waits id x targets s s₁ s' m f failure := by
  unfold disturb at hd
  split at hd
  · rename_i e s₁ hl
    cases hd
    exact ⟨s₁, [], none, launches_launch hl, ⟨⟨_, _, .skipped s₁.world hl, by simp, by simp⟩,
      by simp, by simp [ended], by simp [ended]⟩⟩
  · rename_i s₁ hl
    simp only at hd
    split at hd
    · rename_i s₂ hk
      obtain ⟨m, f, p, e⟩ := polls_soak hk
      obtain ⟨a, w, polling, hw, hs⟩ := p.polling
      rw [launches_emit, world_emit] at polling
      cases hd
      cases f with
      | some f => cases e
      | none =>
        exact ⟨s₁, m, none, launches_launch hl, ⟨⟨_, _, .elapsed hl hk polling, hw, by simp [hs]⟩,
          by simp [p.ledger], by simpa using p.asked, p.once⟩⟩
    · rename_i reason s₂ hk
      obtain ⟨m, f, p, e⟩ := polls_soak hk
      obtain ⟨a, w, polling, hw, hs⟩ := p.polling
      rw [launches_emit, world_emit] at polling
      cases hd
      cases f with
      | none => exact (e reason rfl).elim
      | some f =>
        cases e
        exact ⟨s₁, m, some f, launches_launch hl, ⟨⟨_, _, .failed hl hk polling, by simpa using hw,
          by simp [hs]⟩, by simp [p.ledger], by simpa using p.asked, p.once⟩⟩
    · cases hd

theorem prepare_cases {r : Except Error Unit} (h : session.prepare s = (r, s')) :
    (session.agent.status s.world = .ready ∧ r = .ok () ∧ s' = s) ∨
      (session.agent.status s.world ≠ .ready ∧
        s.Called session.agent.prepare (.prepare r) r s') := by
  unfold prepare at h
  split at h
  · rename_i ready
    cases h
    exact .inl ⟨ready, rfl, rfl⟩
  · rename_i ready
    exact .inr ⟨ready, RunState.called h⟩

theorem discovered {r : Except Error (List Target)} (h : session.discover s = some (r, s')) :
    session.agent.Discovers s.world r s'.world ∧ s'.steps = s.steps ++ [.discover r] ∧
      s'.ledger = s.ledger := by
  obtain ⟨reply, found, same⟩ := Option.map_eq_some_iff.1 h
  obtain ⟨gives, steps, ledger⟩ := RunState.called same
  refine ⟨⟨reply.took, ?_⟩, steps, ledger⟩
  rw [found, ← gives.answer, ← gives.world]

section run

variable {world : W} {now : Instant} {ending : RunEnd}

variable (session id x world now) in
/-- A run ends before it has its targets, or goes on with them. -/
inductive Runs : RunEnd → RunState W → Prop
  | unready {e : Error} {s : RunState W} (prepares : session.prepare (session.emit id
      (.started (session.agent.wallClock world)) { world, now }) = (.error e, s)) : Runs (.refused e) s
  | endless {s : RunState W} (prepares : session.prepare (session.emit id
      (.started (session.agent.wallClock world)) { world, now }) = (.ok (), s))
      (searches : session.discover s = none) : Runs (.aborted .endless) s
  | undiscovered {e : Error} {s₁ s : RunState W} (prepares : session.prepare (session.emit id
      (.started (session.agent.wallClock world)) { world, now }) = (.ok (), s₁))
      (discovers : session.discover s₁ = some (.error e, s)) : Runs (.refused e) s
  | goesOn {targets : List Target} {s₁ s₂ s : RunState W} {ending : RunEnd}
      (prepares : session.prepare (session.emit id
        (.started (session.agent.wallClock world)) { world, now }) = (.ok (), s₁))
      (discovers : session.discover s₁ = some (.ok targets, s₂))
      (rest : session.runOn id x (session.agent.wallClock world) now targets
        (session.emit id (.targetsDiscovered targets.length) s₂) = (ending, s)) : Runs ending s

theorem run_cases (h : session.run id x world now = (ending, s)) : session.Runs id x world now ending s := by
  unfold run at h
  simp only at h
  split at h
  · rename_i prepares
    cases h
    exact .unready prepares
  · rename_i prepares
    split at h
    · rename_i searches
      cases h
      exact .endless prepares searches
    · rename_i discovers
      cases h
      exact .undiscovered prepares discovers
    · rename_i discovers
      exact .goesOn prepares discovers h

theorem searching_of_run (h : session.run id x world now = (.aborted .endless, s)) :
    ∃ a, session.Searching world a s.world ∧
      s.steps = session.announcement id (.started (session.agent.wallClock world)) ++ a := by
  cases run_cases h with
  | endless prepares searches =>
    have never : session.agent.discover s.world = none := Option.map_eq_none_iff.1 searches
    rcases prepare_cases prepares with ⟨ready, _, rfl⟩ | ⟨ready, p⟩
    · rw [world_emit] at ready never ⊢
      exact ⟨[], .ready ready never, by rw [steps_emit, List.append_nil]; rfl⟩
    · have gives := p.gives
      rw [world_emit] at ready gives
      exact ⟨_, .prepared ready gives never, by rw [p.steps, steps_emit]; rfl⟩
  | goesOn _ _ rest => exact (runOn_ne_endless _ _ _ _ _ _ _ (congrArg Prod.fst rest)).elim

theorem runOn_ne_refused {startedAt : Timestamp} {e : Error} :
    session.runOn id x startedAt now targets s ≠ (.refused e, s') := by
  intro h
  unfold runOn at h
  split at h <;> cases h

theorem refusing_of_run {e : Error} (h : session.run id x world now = (.refused e, s)) :
    ∃ a, session.Refusing world a e s.world ∧
      s.steps = session.announcement id (.started (session.agent.wallClock world)) ++ a := by
  cases run_cases h with
  | unready prepares =>
    rcases prepare_cases prepares with ⟨_, hr, _⟩ | ⟨ready, p⟩
    · cases hr
    · rw [world_emit] at ready
      have gives := p.gives
      rw [world_emit] at gives
      exact ⟨_, .unready ready gives, by rw [p.steps, steps_emit]; rfl⟩
  | undiscovered prepares hd =>
    obtain ⟨discovers, steps, -⟩ := discovered hd
    rcases prepare_cases prepares with ⟨ready, _, rfl⟩ | ⟨ready, p⟩
    · rw [world_emit] at ready discovers
      exact ⟨_, .ready ready discovers, by rw [steps, steps_emit]; rfl⟩
    · rw [world_emit] at ready
      have gives := p.gives
      rw [world_emit] at gives
      refine ⟨_, .prepared ready gives discovers, ?_⟩
      rw [steps, p.steps, steps_emit, List.append_assoc]
      rfl
  | goesOn _ _ rest => exact (runOn_ne_refused rest).elim

theorem preparing_of_run {s₁ s₂ : RunState W}
    (hp : session.prepare (session.emit id (.started (session.agent.wallClock world)) { world, now }) =
      (.ok (), s₁)) (hd : session.discover s₁ = some (.ok targets, s₂)) :
    ∃ a, session.Preparing world a targets s₂.world ∧ s₂.ledger = Ledger.empty ∧
      s₂.steps = session.announcement id (.started (session.agent.wallClock world)) ++ a := by
  obtain ⟨discovers, steps, ledger⟩ := discovered hd
  rcases prepare_cases hp with ⟨ready, _, rfl⟩ | ⟨ready, p⟩
  · rw [world_emit] at ready discovers
    exact ⟨_, .ready ready discovers, by rw [ledger, ledger_emit]; rfl, by rw [steps, steps_emit]; rfl⟩
  · rw [world_emit] at ready
    have gives := p.gives
    rw [world_emit] at gives
    refine ⟨_, .prepared ready gives discovers, by rw [ledger, p.ledger, ledger_emit]; rfl, ?_⟩
    rw [steps, p.steps, steps_emit, List.append_assoc]
    rfl

theorem reports_of_runOn {startedAt : Timestamp} {report : Report}
    (h : session.runOn id x startedAt now targets s = (.reported report, s')) :
    ∃ failure soak s₁ undoing attempts,
      session.disturb id x targets s = (.ok failure, soak, s₁) ∧
      session.Reports id targets startedAt failure undoing attempts report s₁ s' := by
  unfold runOn at h
  split at h
  · cases h
  · rename_i failure soak s₁ hd
    obtain ⟨rollback, s₂, hr⟩ : ∃ rollback s₂, session.rollback id
        (session.emit id .rollbackStarted s₁).log.undoOrder
        (session.emit id .rollbackStarted s₁) = (rollback, s₂) := ⟨_, _, rfl⟩
    obtain ⟨undoing, attempts, w, undoes, reversed, hw, hs, hl⟩ := undoing_rollback hr
    simp only [hr] at h
    cases h
    rw [launches_emit] at undoes reversed
    rw [world_emit] at undoes
    rw [ledger_emit] at hl
    refine ⟨failure, soak, s₁, undoing, attempts, hd, ?_⟩
    constructor
    · rw [world_emit, hw]
      exact undoes
    · simp only [steps_emit, hs, List.append_assoc]
    · rw [ledger_emit, hl]
    · rw [reversed]
      simp [RollbackLog.undoOrder]
    · exact congrArg Ledger.executions ((session.ledger_emit id _ s₂).trans hl)
    · rfl
    · rfl
    · rfl
    · rfl

theorem run_course {report : Report} (h : session.run id x world now = (.reported report, s)) :
    Nonempty (session.Course id x world now report s) := by
  cases run_cases h with
  | @goesOn targets s₁ s₂ _ _ hp hd rest =>
    obtain ⟨preparing, prepares, empty, steps⟩ := preparing_of_run hp hd
    obtain ⟨failure, soak, s₃, undoing, attempts, ht, r⟩ := reports_of_runOn rest
    obtain ⟨s₄, m, f, l, w⟩ := disturb_phases ht
    obtain ⟨launching, records, started, v, launches, rfl, hs, hl⟩ := l
    obtain ⟨waiting, u, waits, rfl, hs'⟩ := w.waiting
    rw [world_emit] at launches
    -- Only launching adds to the ledger; waiting, undoing and announcements leave it.
    have kept : s.ledger = s₄.ledger := r.ledger.trans w.ledger
    have ledger : s₄.ledger = Ledger.empty.add records started := by
      rw [hl, ledger_emit, empty]
    have executions : report.executions = records :=
      r.executions.trans (congrArg Ledger.executions (w.ledger.trans ledger))
    have launchesKept : s.launches = s₃.launches := congrArg Ledger.launches r.ledger
    have launchesKept' : s.launches = s₄.launches := congrArg Ledger.launches kept
    have logKept : s.log = s₃.log := congrArg Ledger.log r.ledger
    have logKept' : s.log = s₄.log := congrArg Ledger.log kept
    refine ⟨{
      preparing, launching, waiting, undoing, targets, started, failure, attempts, prepares
      completed := m
      failed := f
      began := session.emit id (.targetsDiscovered targets.length) s₂
      runs := h.trans rest.symm
      found := s₂.world
      launched := s₄.world
      waited := s₃.world
      launches := ?_
      waits := ?_
      undoes := ?_
      steps := ?_
      ledger := ?_
      ends := ?_
      once := w.once
      reversed := ?_
      reportId := r.reportId
      reportTargets := r.reportTargets
      startedAt := r.startedAt
      status := r.status }⟩
    · rw [executions]
      exact launches
    · rw [launchesKept']
      exact waits
    · rw [launchesKept]
      exact r.undoes
    · simp only [r.steps, hs', hs, steps_emit, steps, List.append_assoc]
    · rw [kept, ledger, executions]
    · rw [logKept']
      exact w.ends
    · rw [logKept, launchesKept]
      exact r.reversed

end run

namespace Course

variable {world : W} {now : Instant} {report : Report}

theorem log_eq (c : session.Course id x world now report s) : s.log = c.started.map Prod.fst := by
  have h := congrArg Ledger.log c.ledger
  simpa [RunState.ledger, Ledger.add, Ledger.empty] using h

theorem launches_eq (c : session.Course id x world now report s) :
    s.launches = (c.started.map fun e => (e.1.id, e.2)).reverse := by
  have h := congrArg Ledger.launches c.ledger
  simpa [RunState.ledger, Ledger.add, Ledger.empty] using h

end Course

end Session

/-- A session to rehearse runs with: its agent numbers the actions that it starts, the second of them
fails and cannot be undone. -/
def rehearsal (listeners : Nat) : Session Nat Unit where
  agent :=
    { status := fun _ => .ready
      prepare := fun n => ⟨.ok (), .zero, n⟩
      discover := fun n =>
        some ⟨.ok [⟨"a", "A", .lambda, .empty⟩, ⟨"b", "B", .lambda, .empty⟩], .zero, n⟩
      skills := [
        { descriptor := ⟨"dim", "", .lambda, true⟩
          validate := fun _ => .ok ()
          execute := fun c n => ⟨.ok ⟨⟨n⟩, "dim", c.target.id, .epoch, .null⟩, .zero, n + 1⟩
          status := fun _ h n => ⟨.ok (if h.id = ⟨1⟩ then .failed "dark" else .completed), .zero, n⟩
          rollback := fun _ h n => ⟨if h.id = ⟨1⟩ then .error (.other "stuck") else .ok (), .zero, n⟩ }]
      connect := fun _ _ n => ⟨.ok (), .zero, n⟩
      wallClock := fun _ => .epoch
      sleep := fun _ n => n }
  settings := .standard
  listeners

def rehearsalTime : Duration := ⟨10 ^ 10, by decide⟩

end GameDay
