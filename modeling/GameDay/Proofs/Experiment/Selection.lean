import GameDay.Proofs.Experiment.Conclusion

namespace GameDay

namespace Selector

structure Matches (s : Selector) (t : Target) : Prop where
  kind : t.kind = s.kind
  id : ∀ value, s.attributes.get? idKey = some value → t.id = value
  attributes : ∀ key value, key ≠ idKey → s.attributes.get? key = some value →
    ∃ values, t.attributes.get? key = some values ∧ value ∈ values

theorem holds_iff (t : Target) (key value : String) : holds t key value = true ↔
    if key = idKey then t.id = value
    else ∃ values, t.attributes.get? key = some values ∧ value ∈ values := by
  unfold holds
  split
  · simp
  · cases t.attributes.get? key <;> simp

theorem admits_iff (s : Selector) (t : Target) : s.admits t = true ↔ s.Matches t := by
  rw [admits, Bool.and_eq_true, decide_eq_true_eq, List.all_eq_true]
  constructor
  · rintro ⟨kind, held⟩
    have entry {key value : String} (asked : s.attributes.get? key = some value) :
        if key = idKey then t.id = value
        else ∃ values, t.attributes.get? key = some values ∧ value ∈ values :=
      (holds_iff t key value).1 (held (key, value) (Dictionary.get?_eq_some_iff.1 asked))
    refine ⟨kind, fun value asked => ?_, fun key value other asked => ?_⟩
    · simpa using entry asked
    · simpa [other] using entry asked
  · intro h
    refine ⟨h.kind, ?_⟩
    rintro ⟨key, value⟩ mem
    have asked := Dictionary.get?_eq_some_iff.2 mem
    rw [holds_iff]
    split
    · rename_i same
      exact h.id value (same ▸ asked)
    · rename_i other
      exact h.attributes key value other asked

instance (s : Selector) (t : Target) : Decidable (s.Matches t) :=
  decidable_of_iff _ (s.admits_iff t)

end Selector

theorem Invocation.selected_eq (inv : Invocation) (targets : List Target) :
    inv.selected targets = (targets.filter (inv.target.Matches ·)).take inv.count := by
  have same : inv.target.admits = fun t => decide (inv.target.Matches t) := by
    funext t
    rw [Bool.eq_iff_iff, decide_eq_true_eq]
    exact inv.target.admits_iff t
  rw [selected, Selector.select, same]

def ExecutionRecord.outcome (r : ExecutionRecord) : String × String × Bool × Option String :=
  (r.skill, r.target, r.success, r.error)

def useOutcome (u : String × Launch × Except Error Unit) : String × String × Bool × Option String :=
  match u.2.2 with
  | .ok () => (u.1, u.2.1.target.id, true, none)
  | .error e => (u.1, u.2.1.target.id, false, some e.message)

variable {targets : List Target} {invs more : List Invocation} {uses : List (String × Launch)}

theorem asked_mono (targets : List Target) (h : invs <+: more) : asked targets invs <+: asked targets more := by
  obtain ⟨rest, rfl⟩ := h
  rw [asked_append]
  exact List.prefix_append _ _

theorem used_mono {rest : List (String × Launch)} (h : uses <+: rest) : used uses <+: used rest :=
  h.map _

namespace Session

variable {W S : Type} {session : Session W S} {id : Uuid} {a : List Step} {r : Except Error Unit}

theorem Launching.outcomes {u v : W} {q : List ExecutionRecord} {m : List (Handle × Launch)}
    (h : session.Launching id u a q m v) :
    q.map ExecutionRecord.outcome = (a.filterMap Step.use?).map useOutcome := by
  induction h with
  | nil | checked | unconnected => rfl
  | append _ _ ha hb => rw [List.filterMap_append, List.map_append, List.map_append, ha, hb]
  | refused _ known | started _ known =>
    rw [List.filterMap_append, uses_announcement, Agent.name_of_skill? known]
    rfl

theorem Went.contained (h : session.Went targets invs a r) :
    ∃ done last rest, invs = done ++ last ++ rest ∧ last.length ≤ 1 ∧
      (∀ inv ∈ done ++ last, session.Accepted targets inv) ∧
      used (asked targets done) <+: a.filterMap Step.use? ∧
      (a.filterMap Step.contact?).length ≤ (asked targets (done ++ last)).length := by
  cases r with
  | ok _ =>
    obtain ⟨passed, made⟩ := h
    refine ⟨invs, [], [], by simp, by simp, by simpa using passed, ?_, ?_⟩
    · exact ⟨[], by rw [made.uses, List.append_nil]⟩
    · simp [made.contacts, reached]
  | error e =>
    cases h with
    | @rejected before after inv _ order passed made _ =>
      refine ⟨before, [], inv :: after, by simpa using order, by simp, by simpa using passed, ?_, ?_⟩
      · exact ⟨[], by rw [made.uses, List.append_nil]⟩
      · simp [made.contacts, reached]
    | @stopped before after inv _ order passed stopped =>
      refine ⟨before, [inv], after, by rw [order]; simp, by simp, passed, ?_, ?_⟩
      · cases stopped with
        | unreached _ _ uses =>
          rw [uses, used_append]
          exact List.prefix_append _ _
        | refused _ _ uses =>
          rw [uses, used_append, List.append_assoc]
          exact List.prefix_append _ _
      · cases stopped with
        | unreached order contacts _ | refused order contacts _ =>
          rw [contacts, asked_append, order]
          simp only [reached, List.length_append, List.length_map, List.length_cons, List.length_nil]
          omega

theorem Went.begun_of_contact (h : session.Went targets invs a r) {before after : List Invocation}
    {inv : Invocation} (order : invs = before ++ inv :: after)
    (begun : (asked targets before).length < (a.filterMap Step.contact?).length) :
    (∀ i ∈ before ++ [inv], session.Accepted targets i) ∧
      used (asked targets before) <+: a.filterMap Step.use? := by
  obtain ⟨done, last, rest, parts, single, accepted, made, few⟩ := h.contained
  have here : before ++ [inv] <+: invs := ⟨after, by rw [order]; simp⟩
  have there : done ++ last <+: invs := ⟨rest, parts.symm⟩
  -- otherwise there are no more connections than uses asked for before
  have within : before ++ [inv] <+: done ++ last := by
    rcases List.prefix_or_prefix_of_prefix here there with within | beyond
    · exact within
    · rcases List.prefix_concat_iff.1 beyond with same | earlier
      · exact ⟨[], by rw [same, List.append_nil]⟩
      · have fewer := (asked_mono targets earlier).length_le
        omega
  have covered : before <+: done := by
    have lengths := within.length_le
    simp only [List.length_append, List.length_singleton] at lengths
    refine List.prefix_of_prefix_length_le ((List.prefix_append _ _).trans here)
      ((List.prefix_append _ _).trans there) ?_
    omega
  exact ⟨fun i mem => accepted i (within.subset mem), (used_mono (asked_mono targets covered)).trans made⟩

theorem Went.tried_prefix_asked (h : session.Went targets invs a r) : tried a <+: asked targets invs := by
  obtain ⟨begun, rest, rfl, _, uses⟩ := h.begun
  exact uses.trans (asked_mono targets (List.prefix_append _ _))

theorem Went.succeeded (h : session.Went targets invs a r) :
    ∀ u ∈ (a.filterMap Step.use?).dropLast, u.2.2 = .ok () := by
  have ok {uses : List (String × Launch)} : ∀ u ∈ used uses, u.2.2 = .ok () := by
    intro u mem
    obtain ⟨v, _, rfl⟩ := List.mem_map.1 mem
    rfl
  have all {uses : List (String × Launch)} (same : a.filterMap Step.use? = used uses) :
      ∀ u ∈ (a.filterMap Step.use?).dropLast, u.2.2 = .ok () := by
    rw [same]
    exact fun u mem => ok u (List.dropLast_subset _ mem)
  cases r with
  | ok _ => exact all h.2.uses
  | error e =>
    cases h with
    | rejected _ _ made _ => exact all made.uses
    | stopped _ _ stopped =>
      cases stopped with
      | unreached _ _ uses => exact all uses
      | refused _ _ uses =>
        rw [uses, List.dropLast_concat]
        exact ok

theorem Went.likewise {b : List Step} (same : Likewise b a) (h : session.Went targets invs a r) :
    session.Went targets invs b r := by
  cases r with
  | ok _ => exact ⟨h.1, h.2.likewise same⟩
  | error e => exact Interrupted.likewise same h

variable {x : Experiment} {world : W} {now : Instant} {ending : RunEnd} {s : RunState W}

theorem untouched (h : session.run id x world now = (ending, s))
    (unfound : (∃ e, ending = .refused e) ∨ ending = .aborted .endless) :
    s.steps.filterMap Step.contact? = [] ∧ s.steps.filterMap Step.use? = [] :=
  ⟨(ofPhase_setup h unfound).filterMap_eq_nil (by decide) fun _ => Step.contact?_silent,
    (ofPhase_setup h unfound).filterMap_eq_nil (by decide) fun _ => Step.use?_silent⟩

theorem Passage.reported_of_error {steps : List Step} (p : session.Passage id x targets steps ending)
    {e : Error} (result : p.result = .error e) :
    ∃ report, ending = .reported report ∧ report.status = "failed: " ++ e.message := by
  obtain ⟨d, disturbed, ends⟩ := p.ends
  rw [result] at disturbed
  cases disturbed
  cases ending with
  | reported report =>
    obtain ⟨failure, same, status⟩ := ends
    cases same
    exact ⟨report, rfl, status⟩
  | refused | aborted => cases ends

/-- Of the uses of skills that are asked for, on the targets that match, a run makes those up to the first
error. Its report tells of just these. -/
theorem uses_up_to_first_error (h : session.run id x world now = (ending, s)) :
    (((∃ e, ending = .refused e) ∨ ending = .aborted .endless) ∧
      s.steps.filterMap Step.contact? = [] ∧ s.steps.filterMap Step.use? = []) ∨
    ∃ targets result, .discover (.ok targets) ∈ s.steps ∧
      (∀ inv ∈ x.skills,
        inv.selected targets = (targets.filter (inv.target.Matches ·)).take inv.count) ∧
      tried s.steps <+: asked targets x.skills ∧
      (∀ before inv after, x.skills = before ++ inv :: after →
        (asked targets before).length < (s.steps.filterMap Step.contact?).length →
        (∀ i ∈ before ++ [inv], session.Accepted targets i) ∧
          used (asked targets before) <+: s.steps.filterMap Step.use?) ∧
      session.Went targets x.skills s.steps result ∧
      (∀ e, result = .error e →
        ∃ report, ending = .reported report ∧ report.status = "failed: " ++ e.message) ∧
      ∀ report, ending = .reported report →
        report.executions.map ExecutionRecord.outcome = (s.steps.filterMap Step.use?).map useOutcome ∧
        ∀ r ∈ report.executions.dropLast, r.success = true := by
  obtain unfound | ⟨targets, ⟨p⟩⟩ := run_passes h
  · exact .inl ⟨unfound, untouched h unfound⟩
  · have went := p.went.likewise p.likewise
    refine .inr ⟨targets, p.result, p.mem_discover, fun inv _ => inv.selected_eq targets,
      went.tried_prefix_asked, fun before inv after => went.begun_of_contact, went,
      fun e => p.reported_of_error, ?_⟩
    rintro report rfl
    obtain ⟨c⟩ := run_course h
    have records : report.executions.map ExecutionRecord.outcome =
        (s.steps.filterMap Step.use?).map useOutcome := by
      rw [c.filterMap_part .launch fun _ => Step.use?_silent]
      exact c.launches.outcomes
    refine ⟨records, fun r mem => ?_⟩
    have told : r.outcome ∈ ((s.steps.filterMap Step.use?).dropLast).map useOutcome := by
      rw [List.map_dropLast, ← records, ← List.map_dropLast]
      exact List.mem_map_of_mem mem
    obtain ⟨u, made, same⟩ := List.mem_map.1 told
    have ok := went.succeeded u made
    rw [useOutcome, ok] at same
    exact (congrArg (fun o => o.2.2.1) same).symm

end Session

def capped : Experiment where
  name := "capped"
  skills := [⟨"dim", ⟨.lambda, .empty⟩, .null, 1⟩, ⟨"dim", ⟨.lambda, .empty⟩, .null, 0⟩]
  duration := rehearsalTime

theorem capped_uses :
    ∃ report, ((rehearsal 0).run ⟨7⟩ capped 0 .zero).1 = .reported report ∧
      report.status = "failed: No target matches lambda" ∧
      report.executions.map ExecutionRecord.outcome = [("dim", "a", true, none)] := by
  have run : (rehearsal 0).run ⟨7⟩ capped 0 .zero =
    (((rehearsal 0).run ⟨7⟩ capped 0 .zero).1, ((rehearsal 0).run ⟨7⟩ capped 0 .zero).2) := rfl
  obtain ⟨report, reported, status⟩ : ∃ report,
      ((rehearsal 0).run ⟨7⟩ capped 0 .zero).1 = .reported report ∧
        report.status = "failed: No target matches lambda" := ⟨_, by rfl, by rfl⟩
  obtain ⟨⟨e, refused⟩ | endless, _⟩ | ⟨targets, result, _, _, _, _, _, _, told⟩ :=
    Session.uses_up_to_first_error run
  · rw [reported] at refused
    cases refused
  · rw [reported] at endless
    cases endless
  · refine ⟨report, reported, status, ?_⟩
    rw [(told report reported).1]
    rfl

end GameDay
