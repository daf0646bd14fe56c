import GameDay.Experiment.Launch
import GameDay.Proofs.Experiment.Steps

namespace GameDay.Session

variable {W S : Type} (session : Session W S) (id : Uuid)

inductive Launching :
    W → List Step → List ExecutionRecord → List (Handle × Launch) → W → Prop
  | nil (w : W) : Launching w [] [] [] w
  | append {u v w : W} {a b : List Step} {q r : List ExecutionRecord}
      {m n : List (Handle × Launch)} :
      Launching u a q m v → Launching v b r n w → Launching u (a ++ b) (q ++ r) (m ++ n) w
  | checked (w : W) {inv : Invocation} {skill : Skill W S}
      (known : session.agent.skill? inv.skill = some skill) :
      Launching w [.validate skill.descriptor.name inv.params (skill.validate inv.params)] [] [] w
  | unconnected {u v : W} {inv : Invocation} {t : Target} {e : Error}
      (c : Gives (session.agent.connect t inv.params) u (.error e) v) :
      Launching u [.connect .execute t inv.params (.error e)] [] [] v
  | refused {u v w : W} {inv : Invocation} {skill : Skill W S} {t : Target} {shared : S} {e : Error}
      (took : Duration) (known : session.agent.skill? inv.skill = some skill)
      (c : Gives (session.agent.connect t inv.params) u (.ok shared) v)
      (x : Gives (skill.execute ⟨shared, t, inv.params⟩) v (.error e) w) :
      Launching u
        ([.connect .execute t inv.params (.ok ()),
            .execute skill.descriptor.name t inv.params (.error e)] ++
          session.announcement id (.skillExecuted inv.skill t.id false))
        [⟨inv.skill, t.id, false, took, some e.message⟩] [] w
  | started {u v w : W} {inv : Invocation} {skill : Skill W S} {t : Target} {shared : S} {h : Handle}
      (took : Duration) (known : session.agent.skill? inv.skill = some skill)
      (c : Gives (session.agent.connect t inv.params) u (.ok shared) v)
      (x : Gives (skill.execute ⟨shared, t, inv.params⟩) v (.ok h) w) :
      Launching u
        ([.connect .execute t inv.params (.ok ()),
            .execute skill.descriptor.name t inv.params (.ok h)] ++
          session.announcement id (.skillExecuted inv.skill t.id true))
        [⟨inv.skill, t.id, true, took, none⟩] [(h, ⟨t, inv.params⟩)] w

def Launches (s s' : RunState W) : Prop :=
  ∃ steps records started w, session.Launching id s.world steps records started w ∧
    s'.world = w ∧ s'.steps = s.steps ++ steps ∧ s'.ledger = s.ledger.add records started

variable {session id} {inv : Invocation} {skill : Skill W S} {s s' : RunState W}
  {r : Except Error Unit}

theorem Launches.refl (s : RunState W) : session.Launches id s s :=
  ⟨[], [], [], s.world, .nil _, rfl, by simp, by simp⟩

theorem Launches.trans {s'' : RunState W} (h : session.Launches id s s')
    (h' : session.Launches id s' s'') : session.Launches id s s'' := by
  obtain ⟨a, q, m, v, ha, rfl, hs, hl⟩ := h
  obtain ⟨b, r, n, w, hb, rfl, hs', hl'⟩ := h'
  exact ⟨a ++ b, q ++ r, m ++ n, _, .append ha hb, rfl, by rw [hs', hs, List.append_assoc],
    by rw [hl', hl, Ledger.add_add]⟩

theorem launchOn_cases {t : Target} (h : session.launchOn id inv skill t s = (r, s')) :
    (∃ e, r = .error e ∧ Gives (session.agent.connect t inv.params) s.world (.error e) s'.world ∧
      s'.steps = s.steps ++ [.connect .execute t inv.params (.error e)] ∧ s'.ledger = s.ledger) ∨
    (∃ e shared v took, r = .error (.skillExecution inv.skill e) ∧
      Gives (session.agent.connect t inv.params) s.world (.ok shared) v ∧
      Gives (skill.execute ⟨shared, t, inv.params⟩) v (.error e) s'.world ∧
      s'.steps = s.steps ++ ([.connect .execute t inv.params (.ok ()),
          .execute skill.descriptor.name t inv.params (.error e)] ++
        session.announcement id (.skillExecuted inv.skill t.id false)) ∧
      s'.ledger = s.ledger.add [⟨inv.skill, t.id, false, took, some e.message⟩] []) ∨
    ∃ handle shared v took, r = .ok () ∧
      Gives (session.agent.connect t inv.params) s.world (.ok shared) v ∧
      Gives (skill.execute ⟨shared, t, inv.params⟩) v (.ok handle) s'.world ∧
      s'.steps = s.steps ++ ([.connect .execute t inv.params (.ok ()),
          .execute skill.descriptor.name t inv.params (.ok handle)] ++
        session.announcement id (.skillExecuted inv.skill t.id true)) ∧
      s'.ledger =
        s.ledger.add [⟨inv.skill, t.id, true, took, none⟩] [(handle, ⟨t, inv.params⟩)] := by
  obtain ⟨connected, s₁, hc⟩ : ∃ connected s₁,
      session.connect .execute ⟨t, inv.params⟩ s = (connected, s₁) := ⟨_, _, rfl⟩
  have c := session.connected hc
  simp only [launchOn, hc] at h
  cases connected with
  | error e =>
    cases h
    exact .inl ⟨e, rfl, c.gives, c.steps, c.ledger⟩
  | ok shared =>
    obtain ⟨answer, s₂, hx⟩ : ∃ answer s₂, s₁.call (skill.execute ⟨shared, t, inv.params⟩)
        (.execute skill.descriptor.name t inv.params ·) = (answer, s₂) := ⟨_, _, rfl⟩
    have x := RunState.called hx
    simp only [hx] at h
    cases answer with
    | error e =>
      cases h
      refine .inr (.inl ⟨e, shared, s₁.world, s₂.now.since s₁.now, rfl, c.gives, ?_, ?_, ?_⟩)
      · simpa using x.gives
      · simp [x.steps, c.steps, Except.map]
      · simp [x.ledger, c.ledger]
    | ok handle =>
      cases h
      refine .inr (.inr ⟨handle, shared, s₁.world, s₂.now.since s₁.now, rfl, c.gives, ?_, ?_, ?_⟩)
      · simpa using x.gives
      · simp [x.steps, c.steps, Except.map]
      · simp [x.ledger, c.ledger]

theorem launches_launchOn {t : Target} (known : session.agent.skill? inv.skill = some skill)
    (h : session.launchOn id inv skill t s = (r, s')) : session.Launches id s s' := by
  obtain ⟨e, _, c, steps, ledger⟩ | ⟨e, _, _, took, _, c, x, steps, ledger⟩ |
    ⟨handle, _, _, took, _, c, x, steps, ledger⟩ := launchOn_cases h
  · exact ⟨_, _, _, _, .unconnected c, rfl, steps, by rw [ledger, Ledger.add_nil]⟩
  · exact ⟨_, _, _, _, .refused took known c x, rfl, steps, ledger⟩
  · exact ⟨_, _, _, _, .started took known c x, rfl, steps, ledger⟩

theorem launches_launchOnEach {targets : List Target}
    (known : session.agent.skill? inv.skill = some skill)
    (h : session.launchOnEach id inv skill targets s = (r, s')) : session.Launches id s s' := by
  induction targets generalizing s with
  | nil =>
    cases h
    exact .refl _
  | cons target targets ih =>
    simp only [launchOnEach] at h
    split at h
    · rename_i s₁ hx
      exact (launches_launchOn known hx).trans (ih h)
    · rename_i e s₁ hx
      cases h
      exact launches_launchOn known hx

theorem check_cases {checked : Except Error (Skill W S)}
    (h : session.check inv s = (checked, s')) :
    (session.agent.skill? inv.skill = none ∧ s' = s ∧
      checked = .error (.config ("Unknown skill: " ++ inv.skill))) ∨
    ∃ skill, session.agent.skill? inv.skill = some skill ∧
      ((skill.descriptor.kind ≠ inv.target.kind ∧ s' = s ∧ checked = .error
          (.config ("Skill " ++ inv.skill ++ " cannot target " ++ inv.target.kind.shortName))) ∨
        (skill.descriptor.kind = inv.target.kind ∧
          s' = s.note (.validate skill.descriptor.name inv.params (skill.validate inv.params)) ∧
          checked = (skill.validate inv.params).map fun _ => skill)) := by
  unfold check at h
  split at h
  · rename_i unknown
    cases h
    exact .inl ⟨unknown, rfl, rfl⟩
  · rename_i skill known
    refine .inr ⟨skill, known, ?_⟩
    split at h
    · rename_i fits
      cases h
      exact .inr ⟨fits, rfl, rfl⟩
    · rename_i other
      cases h
      exact .inl ⟨other, rfl, rfl⟩

theorem launches_check {checked : Except Error (Skill W S)}
    (h : session.check inv s = (checked, s')) : session.Launches id s s' := by
  obtain ⟨_, rfl, _⟩ | ⟨skill, known, ⟨_, rfl, _⟩ | ⟨_, rfl, _⟩⟩ := check_cases h
  · exact .refl _
  · exact .refl _
  · exact ⟨_, _, _, _, .checked s.world known, rfl, by simp, by simp⟩

theorem skill?_of_check (h : session.check inv s = (.ok skill, s')) :
    session.agent.skill? inv.skill = some skill := by
  obtain ⟨_, _, failed⟩ | ⟨found, known, ⟨_, _, failed⟩ | ⟨_, _, checked⟩⟩ := check_cases h
  · cases failed
  · cases failed
  · cases valid : found.validate inv.params with
    | error e => simp [valid, Except.map] at checked
    | ok _ =>
      simp only [valid, Except.map, Except.ok.injEq] at checked
      rw [known, checked]

theorem launches_launchInvocation {targets : List Target}
    (h : session.launchInvocation id targets inv s = (r, s')) : session.Launches id s s' := by
  unfold launchInvocation at h
  split at h
  · rename_i hc
    cases h
    exact launches_check hc
  · rename_i skill s₁ hc
    split at h
    · cases h
      exact launches_check hc
    · exact (launches_check hc).trans (launches_launchOnEach (skill?_of_check hc) h)

theorem launches_launch {targets : List Target} {invs : List Invocation}
    (h : session.launch id targets invs s = (r, s')) : session.Launches id s s' := by
  induction invs generalizing s with
  | nil =>
    cases h
    exact .refl _
  | cons inv invs ih =>
    simp only [launch] at h
    split at h
    · rename_i s₁ hx
      exact (launches_launchInvocation hx).trans (ih h)
    · rename_i e s₁ hx
      cases h
      exact launches_launchInvocation hx

end GameDay.Session
