import GameDay.Proofs.Experiment.Uses

/-!
What a run comes to: it is refused before anything is launched, it is completed without trouble, or it
fails with the first failure on its way, whatever comes of undoing.
-/

namespace GameDay

def Step.polled? : Step → Option (Handle × SkillStatus)
  | .poll _ _ _ h (.ok status) => some (h, status)
  | _ => none

theorem Step.polled?_silent {step : Step} (h : step.phase? ≠ some .poll) : step.polled? = none := by
  unfold polled?
  split
  · exact (h rfl).elim
  · rfl

def Calm (polls : List (Handle × SkillStatus)) : Prop := ∀ p ∈ polls, ∀ reason, p.2 ≠ .failed reason

theorem Calm.append {polls more : List (Handle × SkillStatus)} (h : Calm polls) (h' : Calm more) :
    Calm (polls ++ more) :=
  List.forall_mem_append.2 ⟨h, h'⟩

theorem Calm.nil : Calm [] := by
  intro p h
  cases h

namespace OfPhase

variable {before launching waiting undoing : List Step}

theorem likewise (setup : OfPhase .setup before) (waits : OfPhase .poll waiting)
    (undoes : OfPhase .undo undoing) :
    Likewise (before ++ (launching ++ (waiting ++ undoing))) launching := by
  have silent {p : Phase} {a : List Step} (ofPhase : OfPhase p a) (ne : p ≠ .launch) :
      a.filterMap Step.contact? = [] ∧ a.filterMap Step.use? = [] :=
    ⟨ofPhase.filterMap_eq_nil ne fun _ => Step.contact?_silent,
      ofPhase.filterMap_eq_nil ne fun _ => Step.use?_silent⟩
  have first := silent setup (by decide)
  have third := silent waits (by decide)
  have last := silent undoes (by decide)
  constructor
  · simp [List.filterMap_append, first.1, third.1, last.1]
  · simp [List.filterMap_append, first.2, third.2, last.2]

theorem filterMap_polled? (setup : OfPhase .setup before) (launches : OfPhase .launch launching)
    (undoes : OfPhase .undo undoing) :
    (before ++ (launching ++ (waiting ++ undoing))).filterMap Step.polled? =
      waiting.filterMap Step.polled? := by
  have silent {p : Phase} {a : List Step} (ofPhase : OfPhase p a) (ne : p ≠ .poll) :
      a.filterMap Step.polled? = [] :=
    ofPhase.filterMap_eq_nil ne fun _ => Step.polled?_silent
  simp [List.filterMap_append, silent setup (by decide), silent launches (by decide),
    silent undoes (by decide)]

end OfPhase

namespace Session

variable {W S : Type} (session : Session W S) (id : Uuid)

structure Untroubled (targets : List Target) (invs : List Invocation) (steps : List Step) : Prop where
  passed : ∀ inv ∈ invs, session.Accepted targets inv
  made : Made (asked targets invs) steps
  calm : Calm (steps.filterMap Step.polled?)

inductive FirstFailure (targets : List Target) (invs : List Invocation) (steps : List Step) :
    String → Prop
  | launching {e : Error} (interrupted : session.Interrupted targets invs steps e)
      (unpolled : steps.filterMap Step.polled? = []) : FirstFailure targets invs steps e.message
  | waiting {polls : List (Handle × SkillStatus)} {h : Handle} {reason : String}
      (passed : ∀ inv ∈ invs, session.Accepted targets inv)
      (made : Made (asked targets invs) steps) (calm : Calm polls)
      (polled : steps.filterMap Step.polled? = polls ++ [(h, .failed reason)]) :
      FirstFailure targets invs steps (h.skill ++ " on " ++ h.target ++ ": " ++ reason)

inductive Concluded (targets : List Target) (invs : List Invocation) (steps : List Step) : RunEnd → Prop
  | completed {report : Report} (untroubled : session.Untroubled targets invs steps)
      (status : report.status = "completed") : Concluded targets invs steps (.reported report)
  | failed {report : Report} {text : String} (failure : session.FirstFailure targets invs steps text)
      (status : report.status = "failed: " ++ text) : Concluded targets invs steps (.reported report)
  | aborted {why : Abort} (untroubled : session.Untroubled targets invs steps) :
      Concluded targets invs steps (.aborted why)

variable {session id} {targets : List Target} {invs : List Invocation} {steps : List Step}

theorem FirstFailure.not_untroubled {text : String}
    (h : session.FirstFailure targets invs steps text) : ¬ session.Untroubled targets invs steps := by
  rintro ⟨passed, made, calm⟩
  cases h with
  | launching interrupted _ => exact interrupted.not_made passed made
  | @waiting polls h reason _ _ _ polled =>
    rw [polled] at calm
    exact calm (h, .failed reason) (by simp) reason rfl

variable {launches : List (Uuid × Launch)} {u v : W} {a b : List Step}

theorem polls_announcement (what : Occurrence) :
    (session.announcement id what).filterMap Step.polled? = [] :=
  filterMap_announcement what fun _ h => Step.polled?_silent (by simp [h])

theorem Polled.filterMap_polled? {h : Handle} {status : SkillStatus}
    (p : session.Polled launches h u a status v) :
    (a.filterMap Step.polled? = [] ∧ status = .running) ∨ a.filterMap Step.polled? = [(h, status)] := by
  cases p with
  | unknown | unconnected | unanswered => exact .inl ⟨rfl, rfl⟩
  | answered => exact .inr rfl

theorem Polled.calm {h : Handle} {status : SkillStatus} (p : session.Polled launches h u a status v)
    (well : ∀ reason, status ≠ .failed reason) : Calm (a.filterMap Step.polled?) := by
  rcases p.filterMap_polled? with ⟨none, _⟩ | one
  · rw [none]
    exact .nil
  · rw [one]
    intro p hp
    rw [List.mem_singleton.1 hp]
    exact well

def PolledTo (polls : List (Handle × SkillStatus)) : Option (Handle × String) → Prop
  | none => Calm polls
  | some failed => ∃ before, Calm before ∧ polls = before ++ [(failed.1, .failed failed.2)]

theorem Polling.polledTo {m : List Handle} {f : Option (Handle × String)}
    (p : session.Polling id launches u a m f v) : PolledTo (a.filterMap Step.polled?) f := by
  induction p with
  | nil | slept => exact Calm.nil
  | @append _ _ _ a b _ _ f _ _ first second =>
    rw [List.filterMap_append]
    cases f with
    | none => exact Calm.append first second
    | some failed =>
      obtain ⟨before, calm, last⟩ := second
      exact ⟨a.filterMap Step.polled? ++ before, first.append calm, by rw [last, List.append_assoc]⟩
  | running p => exact p.calm (by simp)
  | completed p =>
    rw [List.filterMap_append, polls_announcement, List.append_nil]
    exact p.calm (by simp)
  | failed p =>
    rw [List.filterMap_append, polls_announcement, List.append_nil]
    rcases p.filterMap_polled? with ⟨_, running⟩ | one
    · cases running
    · exact ⟨[], .nil, one⟩

variable (session) in
def AllKnown (polls : List (Handle × SkillStatus)) : Prop :=
  ∀ p ∈ polls, ∃ skill, session.agent.skill? p.1.skill = some skill

theorem Polling.known {m : List Handle} {f : Option (Handle × String)}
    (p : session.Polling id launches u a m f v) : session.AllKnown (a.filterMap Step.polled?) := by
  have each {h : Handle} {status : SkillStatus} {u v : W} {a : List Step}
      (p : session.Polled launches h u a status v) : session.AllKnown (a.filterMap Step.polled?) := by
    cases p with
    | unknown | unconnected | unanswered => exact List.forall_mem_nil _
    | answered known => exact List.forall_mem_singleton.2 ⟨_, known⟩
  induction p with
  | nil | slept => exact List.forall_mem_nil _
  | append _ _ first second =>
    rw [List.filterMap_append]
    exact List.forall_mem_append.2 ⟨first, second⟩
  | running p => exact each p
  | completed p | failed p =>
    rw [List.filterMap_append, polls_announcement, List.append_nil]
    exact each p

/-- How the run goes on after launching: what the first failure is, or why there is none to tell. -/
inductive Disturbed (polls : List (Handle × SkillStatus)) :
    Except Error Unit → Except Abort (Option String) → Prop
  | interrupted {e : Error} (unpolled : polls = []) :
      Disturbed polls (.error e) (.ok (some e.message))
  | elapsed (calm : Calm polls) : Disturbed polls (.ok ()) (.ok none)
  | failed {before : List (Handle × SkillStatus)} {f : Handle × String} (calm : Calm before)
      (last : polls = before ++ [(f.1, .failed f.2)]) :
      Disturbed polls (.ok ()) (.ok (some (failureText f)))
  | aborted {why : Abort} (calm : Calm polls) : Disturbed polls (.ok ()) (.error why)

variable {x : Experiment} {s s' : RunState W}

theorem polledTo_soak {what : Occurrence} {soaked : SoakEnd}
    (h : session.soak id x.duration (session.emit id what s) = (soaked, s')) :
    ∃ b f, s'.steps = s.steps ++ b ∧ OfPhase .poll b ∧ PolledTo (b.filterMap Step.polled?) f ∧
      SoakedTo f soaked ∧ session.AllKnown (b.filterMap Step.polled?) := by
  obtain ⟨m, f, p, soaked⟩ := polls_soak h
  obtain ⟨b, w, polling, _, hb⟩ := p.polling
  refine ⟨session.announcement id what ++ b, f, ?_, ?_, ?_, soaked, ?_⟩
  · rw [hb, steps_emit, List.append_assoc]
  · exact (ofPhase_announcement _ _).append polling.ofPhase
  · rw [List.filterMap_append, polls_announcement, List.nil_append]
    exact polling.polledTo
  · rw [List.filterMap_append, polls_announcement, List.nil_append]
    exact polling.known

theorem disturbed_disturb {d : Except Abort (Option String)} {soak : Duration}
    (hd : session.disturb id x targets s = (d, soak, s')) :
    ∃ r s₁ b, session.launch id targets x.skills s = (r, s₁) ∧ s'.steps = s₁.steps ++ b ∧
      OfPhase .poll b ∧ Disturbed (b.filterMap Step.polled?) r d ∧
        session.AllKnown (b.filterMap Step.polled?) := by
  unfold disturb at hd
  split at hd
  · rename_i e s₁ hl
    cases hd
    exact ⟨_, s₁, session.announcement id (.failed e.message), hl, steps_emit _ _ _ _,
      ofPhase_announcement _ _, .interrupted (polls_announcement (.failed e.message)),
      by simp [AllKnown, polls_announcement]⟩
  · rename_i s₁ hl
    obtain ⟨soaked, s₂, hk⟩ : ∃ soaked s₂,
        session.soak id x.duration (session.emit id (.waitBegun x.duration) s₁) = (soaked, s₂) :=
      ⟨_, _, rfl⟩
    obtain ⟨b, f, steps, waits, polls, told, known⟩ := polledTo_soak hk
    simp only [hk] at hd
    -- A failure was polled last exactly if the soaking ended with one.
    cases soaked with
    | «over» =>
      cases hd
      cases f with
      | some f => cases told
      | none => exact ⟨_, s₁, b, hl, steps, waits, .elapsed polls, known⟩
    | failed reason =>
      cases hd
      cases f with
      | none => exact (told reason rfl).elim
      | some f =>
        cases told
        obtain ⟨before, calm, last⟩ := polls
        refine ⟨_, s₁, b ++ session.announcement id (.failed (failureText f)), hl, ?_,
          waits.append (ofPhase_announcement _ _), .failed calm ?_, ?_⟩
        · rw [steps_emit, steps, List.append_assoc]
        · rw [List.filterMap_append, last, polls_announcement, List.append_nil]
        · rwa [List.filterMap_append, polls_announcement, List.append_nil]
    | aborted why =>
      cases hd
      cases f with
      | some f => cases told
      | none => exact ⟨_, s₁, b, hl, steps, waits, .aborted polls, known⟩

def EndsAs (d : Except Abort (Option String)) : RunEnd → Prop
  | .reported report => ∃ failure, d = .ok failure ∧ report.status = (finalStatus failure).label
  | .refused _ => False
  | .aborted why => d = .error why

theorem endsAs_runOn {startedAt : Timestamp} {now : Instant} {ending : RunEnd}
    (h : session.runOn id x startedAt now targets s = (ending, s')) :
    ∃ d soak s₁ b, session.disturb id x targets s = (d, soak, s₁) ∧ s'.steps = s₁.steps ++ b ∧
      OfPhase .undo b ∧ EndsAs d ending := by
  cases ending with
  | reported report =>
    obtain ⟨failure, soak, s₁, undoing, attempts, hd, reports⟩ := reports_of_runOn h
    refine ⟨_, soak, s₁, _, hd, reports.steps, ?_, failure, rfl, reports.status⟩
    exact (ofPhase_announcement _ _).append (reports.undoes.ofPhase.append (ofPhase_announcement _ _))
  | refused e => exact (runOn_ne_refused h).elim
  | aborted why =>
    unfold runOn at h
    split at h
    · rename_i soak s₁ hd
      cases h
      exact ⟨_, soak, s', [], hd, by simp, .nil, rfl⟩
    · cases h

theorem concluded_of_disturbed {r : Except Error Unit} {d : Except Abort (Option String)}
    {ending : RunEnd} (like : Likewise steps a)
    (polls : steps.filterMap Step.polled? = b.filterMap Step.polled?)
    (went : session.Went targets invs a r) (disturbed : Disturbed (b.filterMap Step.polled?) r d)
    (ends : EndsAs d ending) : session.Concluded targets invs steps ending := by
  rw [← polls] at disturbed
  cases ending with
  | refused e => cases ends
  | aborted why =>
    cases ends
    cases disturbed with
    | aborted calm => exact .aborted ⟨went.1, went.2.likewise like, calm⟩
  | reported report =>
    obtain ⟨failure, rfl, status⟩ := ends
    cases disturbed with
    | interrupted unpolled =>
      exact .failed (.launching (Interrupted.likewise like went) unpolled) status
    | elapsed calm => exact .completed ⟨went.1, went.2.likewise like, calm⟩ status
    | failed calm last => exact .failed (.waiting went.1 (went.2.likewise like) calm last) status

theorem Preparing.mem_discover {u v : W} (h : session.Preparing u a targets v) :
    Step.discover (.ok targets) ∈ a := by
  cases h <;> simp

variable (session id) in
structure Passage (x : Experiment) (targets : List Target) (steps : List Step) (ending : RunEnd) where
  before : List Step
  launching : List Step
  waiting : List Step
  undoing : List Step
  began : RunState W
  launched : RunState W
  result : Except Error Unit
  parts : steps = before ++ (launching ++ (waiting ++ undoing))
  found : Step.discover (.ok targets) ∈ before
  launch : session.launch id targets x.skills began = (result, launched)
  grown : launched.steps = began.steps ++ launching
  setup : OfPhase .setup before
  waits : OfPhase .poll waiting
  undoes : OfPhase .undo undoing
  ends : ∃ d, Disturbed (waiting.filterMap Step.polled?) result d ∧ EndsAs d ending
  known : session.AllKnown (waiting.filterMap Step.polled?)

theorem run_passes {world : W} {now : Instant} {ending : RunEnd}
    (h : session.run id x world now = (ending, s)) :
    ((∃ e, ending = .refused e) ∨ ending = .aborted .endless) ∨
      ∃ targets, Nonempty (session.Passage id x targets s.steps ending) := by
  cases run_cases h with
  | unready | undiscovered => exact .inl (.inl ⟨_, rfl⟩)
  | endless => exact .inl (.inr rfl)
  | @goesOn targets _ _ _ _ hp hd rest =>
    obtain ⟨preparing, prepares, _, before⟩ := preparing_of_run hp hd
    obtain ⟨d, soak, s₃, undoing, ht, hs, undoes, ends⟩ := endsAs_runOn rest
    obtain ⟨r, s₄, waiting, hl, hw, waits, disturbed, known⟩ := disturbed_disturb ht
    obtain ⟨launching, _, _, _, _, _, grown, _⟩ := launches_launch hl
    refine .inr ⟨targets, ⟨{
      launching, waiting, undoing, grown, waits, undoes, known
      before := session.announcement id (.started (session.agent.wallClock world)) ++
        preparing ++ session.announcement id (.targetsDiscovered targets.length)
      began := _
      launched := _
      result := _
      launch := hl
      parts := ?_
      found := ?_
      setup := ?_
      ends := ⟨d, disturbed, ends⟩ }⟩⟩
    · rw [hs, hw, grown, steps_emit, before]
      simp only [List.append_assoc]
    · simp [prepares.mem_discover]
    · exact ((ofPhase_announcement _ _).append prepares.ofPhase).append (ofPhase_announcement _ _)

namespace Passage

variable {ending : RunEnd} (p : session.Passage id x targets steps ending)
include p

theorem mem_discover : Step.discover (.ok targets) ∈ steps := by
  rw [p.parts]
  exact List.mem_append_left _ p.found

theorem exists_launching : ∃ q m w, session.Launching id p.began.world p.launching q m w := by
  obtain ⟨b, q, m, w, launching, _, hb, _⟩ := launches_launch p.launch
  rw [p.grown] at hb
  rw [List.append_cancel_left hb]
  exact ⟨q, m, w, launching⟩

theorem ofPhase_launching : OfPhase .launch p.launching := by
  obtain ⟨q, m, w, launching⟩ := p.exists_launching
  exact launching.ofPhase

theorem likewise : Likewise steps p.launching := by
  have like : Likewise (p.before ++ (p.launching ++ (p.waiting ++ p.undoing))) p.launching :=
    p.setup.likewise p.waits p.undoes
  rwa [← p.parts] at like

theorem went : session.Went targets x.skills p.launching p.result := by
  obtain ⟨a, ha, went⟩ := went_launch p.launch
  rw [p.grown] at ha
  rwa [List.append_cancel_left ha]

theorem polls : steps.filterMap Step.polled? = p.waiting.filterMap Step.polled? := by
  have polls : (p.before ++ (p.launching ++ (p.waiting ++ p.undoing))).filterMap Step.polled? =
      p.waiting.filterMap Step.polled? :=
    p.setup.filterMap_polled? p.ofPhase_launching p.undoes
  rwa [← p.parts] at polls

theorem concluded : session.Concluded targets x.skills steps ending := by
  obtain ⟨d, disturbed, ends⟩ := p.ends
  exact concluded_of_disturbed p.likewise p.polls p.went disturbed ends

end Passage

end Session

end GameDay
