import GameDay.Proofs.Experiment.Reversal

namespace GameDay

def Step.heard? (listener : Nat) : Step → Option Event
  | .event i e => if i = listener then some e else none
  | _ => none

def ExecutionRecord.told (r : ExecutionRecord) : Occurrence :=
  .skillExecuted r.skill r.target r.success

def RollbackRecord.told (r : RollbackRecord) : Occurrence := .rollbackStepCompleted r.skill r.success

def Handle.told (h : Handle) : Occurrence := .skillFinished h.skill h.target none

namespace Session

variable {W S : Type} (session : Session W S) (id : Uuid)

/-- What is told between launching and undoing, of the actions that have ended. -/
inductive Between (x : Experiment) (targets : List Target) (began : RunState W) :
    List Handle → Option String → List Occurrence → Prop
  | interrupted {e : Error} {s : RunState W}
      (launch : session.launch id targets x.skills began = (.error e, s)) :
      Between x targets began [] (some e.message) [.failed e.message]
  | elapsed {s s' : RunState W} {m : List Handle}
      (launch : session.launch id targets x.skills began = (.ok (), s))
      (soak : session.soak id x.duration (session.emit id (.waitBegun x.duration) s) = (.over, s')) :
      Between x targets began m none (.waitBegun x.duration :: m.map Handle.told)
  | failed {s s' : RunState W} {m : List Handle} {h : Handle} {reason : String}
      (launch : session.launch id targets x.skills began = (.ok (), s))
      (soak : session.soak id x.duration (session.emit id (.waitBegun x.duration) s) =
        (.failed (failureText (h, reason)), s')) :
      Between x targets began (m ++ [h]) (some (failureText (h, reason)))
        (.waitBegun x.duration :: (m.map Handle.told ++
          [.skillFinished h.skill h.target (some reason), .failed (failureText (h, reason))]))

/-- What is told accords with the report of a run that began to launch in a certain state. -/
structure Accords (x : Experiment) (targets : List Target) (began : RunState W) (report : Report)
    (steps : List Step) (told : List Occurrence) : Prop where
  form : ∃ ended failure between time, told =
      .started report.startedAt :: .targetsDiscovered report.targets.length ::
        (report.executions.map ExecutionRecord.told ++ between ++
          .rollbackStarted :: (report.rollback.map RollbackRecord.told ++ [.completed time])) ∧
    session.Between id x targets began ended failure between ∧
    (ended.map (·.id)).Nodup ∧
    ∀ h ∈ ended, ∃ launch, (h, launch) ∈ steps.filterMap Step.started?
  failed_iff : ∀ e, .failed e ∈ told ↔ report.status = "failed: " ++ e
  unfinished_iff : (∃ skill target reason, .skillFinished skill target (some reason) ∈ told) ↔
    ∃ s s' reason, session.launch id targets x.skills began = (.ok (), s) ∧
      session.soak id x.duration (session.emit id (.waitBegun x.duration) s) = (.failed reason, s')

variable {session id} {listener : Nat} {launches : List (Uuid × Launch)} {u v : W} {a : List Step}

theorem heard_announcement (hears : listener < session.listeners) (what : Occurrence) :
    (session.announcement id what).filterMap (Step.heard? listener) = [⟨id, what⟩] := by
  have upTo (n : Nat) : ((List.range n).map (.event · ⟨id, what⟩)).filterMap (Step.heard? listener) =
      if listener < n then [⟨id, what⟩] else [] := by
    induction n with
    | zero => rfl
    | succ n ih =>
      rw [List.range_succ, List.map_append, List.filterMap_append, ih]
      simp only [List.map_cons, List.map_nil, List.filterMap_cons, Step.heard?, List.filterMap_nil]
      rcases Nat.lt_trichotomy listener n with h | rfl | h
      · simp [h, Nat.lt_succ_of_lt h, Nat.ne_of_gt h]
      · simp
      · simp [Nat.not_lt_of_gt h, Nat.ne_of_lt h, show ¬ listener < n + 1 by omega]
  rw [announcement, upTo, if_pos hears]

theorem Preparing.heard {targets : List Target} (h : session.Preparing u a targets v) :
    a.filterMap (Step.heard? listener) = [] := by
  cases h <;> rfl

theorem Launching.heard (hears : listener < session.listeners) {q : List ExecutionRecord}
    {m : List (Handle × Launch)} (h : session.Launching id u a q m v) :
    a.filterMap (Step.heard? listener) = (q.map ExecutionRecord.told).map (⟨id, ·⟩) := by
  induction h with
  | nil | checked | unconnected => rfl
  | append _ _ ha hb => rw [List.filterMap_append, List.map_append, List.map_append, ha, hb]
  | refused | started => rw [List.filterMap_append, heard_announcement hears]; rfl

theorem Polled.heard {h : Handle} {status : SkillStatus}
    (p : session.Polled launches h u a status v) : a.filterMap (Step.heard? listener) = [] := by
  cases p <;> rfl

def unfinished (f : Handle × String) : Occurrence := .skillFinished f.1.skill f.1.target (some f.2)

theorem Polling.heard (hears : listener < session.listeners) {m : List Handle}
    {f : Option (Handle × String)} (h : session.Polling id launches u a m f v) :
    a.filterMap (Step.heard? listener) =
      (m.map Handle.told ++ f.toList.map unfinished).map (⟨id, ·⟩) := by
  induction h with
  | nil | slept => rfl
  | append _ _ ha hb => rw [List.filterMap_append, ha, hb]; simp
  | running p => rw [p.heard]; rfl
  | completed p | failed p =>
    rw [List.filterMap_append, p.heard, heard_announcement hears]
    rfl

theorem Waiting.heard (hears : listener < session.listeners) {x : Experiment}
    {targets : List Target} {began : RunState W} {m : List Handle} {f : Option (Handle × String)}
    {failure : Option String}
    (h : session.Waiting id x targets began launches u a m f failure v) :
    ∃ between, session.Between id x targets began (ended m f) failure between ∧
      a.filterMap (Step.heard? listener) = between.map (⟨id, ·⟩) := by
  cases h with
  | skipped _ launch => exact ⟨_, .interrupted launch, heard_announcement hears _⟩
  | elapsed launch soak p =>
    refine ⟨_, by simpa [ended] using .elapsed launch soak, ?_⟩
    rw [List.filterMap_append, heard_announcement hears, p.heard hears]
    simp
  | @failed _ _ _ _ _ _ f launch soak p =>
    refine ⟨_, .failed launch soak, ?_⟩
    rw [List.filterMap_append, List.filterMap_append, heard_announcement hears,
      heard_announcement hears, p.heard hears]
    simp [unfinished]

theorem Undoing.heard (hears : listener < session.listeners) {q : List RollbackRecord}
    {m : List Attempt} (h : session.Undoing id launches u a q m v) :
    a.filterMap (Step.heard? listener) = (q.map RollbackRecord.told).map (⟨id, ·⟩) := by
  induction h with
  | nil => rfl
  | append _ _ ha hb => rw [List.filterMap_append, List.map_append, List.map_append, ha, hb]
  | unconnected | answered => rw [List.filterMap_append, heard_announcement hears]; rfl

end Session

theorem label_completed_ne (e : String) :
    Experiment.Status.completed.label ≠ "failed: " ++ e := by
  intro h
  have := congrArg (fun s => s.toList.head?) h
  simp [Experiment.Status.label, String.toList_append] at this

theorem label_failed_iff (failure : Option String) (e : String) :
    (Session.finalStatus failure).label = "failed: " ++ e ↔ failure = some e := by
  cases failure with
  | none => simp [Session.finalStatus, label_completed_ne]
  | some reason =>
    simp only [Session.finalStatus, Experiment.Status.label, String.append_right_inj,
      Option.some.injEq]

namespace Session

variable {W S : Type} {session : Session W S} {id : Uuid} {x : Experiment} {targets : List Target}
  {began : RunState W} {m : List Handle} {failure : Option String} {between : List Occurrence}

theorem Between.failed_mem (h : session.Between id x targets began m failure between) (e : String) :
    .failed e ∈ between ↔ failure = some e := by
  cases h with
  | interrupted => simp [eq_comm]
  | elapsed => simp [Handle.told]
  | failed => simp [Handle.told, eq_comm]

theorem Between.unfinished_mem (h : session.Between id x targets began m failure between) :
    (∃ skill target reason, .skillFinished skill target (some reason) ∈ between) ↔
      ∃ s s' reason, session.launch id targets x.skills began = (.ok (), s) ∧
        session.soak id x.duration (session.emit id (.waitBegun x.duration) s) =
          (.failed reason, s') := by
  cases h with
  | interrupted launch => simp [launch]
  | elapsed launch soak => simp [launch, soak, Handle.told]
  | failed launch soak => simp [launch, soak, Handle.told]

variable {listener : Nat} {world : W} {now : Instant} {s : RunState W}

theorem Course.accord {report : Report} (hears : listener < session.listeners)
    (c : session.Course id x world now report s) :
    ∃ told, s.steps.filterMap (Step.heard? listener) = told.map (⟨id, ·⟩) ∧
      session.Accords id x c.targets c.began report s.steps told := by
  obtain ⟨between, hb, heard⟩ := c.waits.heard hears
  refine ⟨.started report.startedAt :: .targetsDiscovered report.targets.length ::
      (report.executions.map ExecutionRecord.told ++ between ++
        .rollbackStarted :: (report.rollback.map RollbackRecord.told ++
          [.completed report.completedAt])), ?_, ?_, ?_, ?_⟩
  · rw [c.steps]
    simp only [List.filterMap_append, heard_announcement hears, c.prepares.heard,
      c.launches.heard hears, heard, c.undoes.heard hears, c.startedAt, c.reportTargets,
      List.length_map]
    simp
  · refine ⟨_, _, between, _, rfl, hb, c.once, ?_⟩
    intro h hh
    have logged := c.ends h hh
    rw [c.log_eq] at logged
    obtain ⟨e, he, rfl⟩ := List.mem_map.1 logged
    exact ⟨e.2, by rw [c.started_eq]; exact he⟩
  · intro e
    rw [c.status, label_failed_iff, ← hb.failed_mem]
    simp [ExecutionRecord.told, RollbackRecord.told]
  · rw [← hb.unfinished_mem]
    simp [ExecutionRecord.told, RollbackRecord.told]

/-- Each listener hears the same of a run: of one that is refused, and of one whose agent is never done looking
for targets, that it started, and of any other all that its report says. -/
theorem heard_accords_with_report {ending : RunEnd} (hears : listener < session.listeners)
    (h : session.run id x world now = (ending, s)) (counted : ending ≠ .aborted .clockOverflow) :
    ∃ told, s.steps.filterMap (Step.heard? listener) = told.map (⟨id, ·⟩) ∧
      (((∃ e, ending = .refused e) ∨ ending = .aborted .endless ∧ ∃ a, session.Searching world a s.world) ∧
          told = [.started (session.agent.wallClock world)] ∨
        ∃ report targets began, ending = .reported report ∧ report.id = id ∧
          session.run id x world now =
            session.runOn id x report.startedAt now targets began ∧
          session.Accords id x targets began report s.steps told) := by
  cases ending with
  | reported report =>
    obtain ⟨c⟩ := run_course h
    obtain ⟨told, heard, accords⟩ := c.accord hears
    exact ⟨told, heard, .inr ⟨report, c.targets, c.began, rfl, c.reportId,
      by rw [c.startedAt]; exact c.runs, accords⟩⟩
  | refused e =>
    obtain ⟨a, refusing, steps⟩ := refusing_of_run h
    refine ⟨_, ?_, .inl ⟨.inl ⟨e, rfl⟩, rfl⟩⟩
    rw [steps, List.filterMap_append, heard_announcement hears]
    cases refusing <;> rfl
  | aborted why =>
    cases why with
    | clockOverflow => exact (counted rfl).elim
    | endless =>
      obtain ⟨a, searching, steps⟩ := searching_of_run h
      refine ⟨_, ?_, .inl ⟨.inr ⟨rfl, a, searching⟩, rfl⟩⟩
      rw [steps, List.filterMap_append, heard_announcement hears]
      cases searching <;> rfl

end Session

def darkened : Experiment where
  name := "darkened"
  skills := [⟨"dim", ⟨.lambda, .empty⟩, .null, 2⟩]
  duration := rehearsalTime

theorem darkened_heard :
    ∃ told, ((rehearsal 1).run ⟨7⟩ darkened 0 .zero).2.steps.filterMap (Step.heard? 0) =
        told.map (⟨⟨7⟩, ·⟩) ∧
      ∃ report targets began, ((rehearsal 1).run ⟨7⟩ darkened 0 .zero).1 = .reported report ∧
        (rehearsal 1).Accords ⟨7⟩ darkened targets began report
          ((rehearsal 1).run ⟨7⟩ darkened 0 .zero).2.steps told := by
  obtain ⟨report, reported⟩ :
      ∃ report, ((rehearsal 1).run ⟨7⟩ darkened 0 .zero).1 = .reported report := ⟨_, by rfl⟩
  have run : (rehearsal 1).run ⟨7⟩ darkened 0 .zero =
    (.reported report, ((rehearsal 1).run ⟨7⟩ darkened 0 .zero).2) := by rw [← reported]
  have hears : 0 < (rehearsal 1).listeners := by decide
  obtain ⟨told, heard, ⟨⟨e, h⟩ | ⟨h, _⟩, _⟩ | ⟨report', targets, began, h, _, _, accords⟩⟩ :=
    Session.heard_accords_with_report hears run (by simp)
  · cases h
  · cases h
  · exact ⟨told, heard, report', targets, began, reported.trans h, accords⟩

example : ((rehearsal 1).run ⟨7⟩ darkened 0 .zero).2.steps.filterMap (Step.heard? 0) =
    [.started .epoch, .targetsDiscovered 2, .skillExecuted "dim" "a" true,
      .skillExecuted "dim" "b" true, .waitBegun rehearsalTime, .skillFinished "dim" "a" none,
      .skillFinished "dim" "b" (some "dark"), .failed "dim on b: dark", .rollbackStarted,
      .rollbackStepCompleted "dim" false, .rollbackStepCompleted "dim" true,
      .completed .epoch].map (⟨⟨7⟩, ·⟩) := by
  rfl

end GameDay
