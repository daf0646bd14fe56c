import GameDay.Disruption.Catalogue
import GameDay.Proofs.Cloud.Answers

namespace GameDay

/-- An error that a check of the configuration could have told before. -/
inductive Error.Misconfigured : Error → Prop
  | unknownSkill (skill : String) : Misconfigured (.config ("Unknown skill: " ++ skill))
  | wrongKind (skill : String) (kind : TargetKind) :
      Misconfigured (.config ("Skill " ++ skill ++ " cannot target " ++ kind.shortName))
  | invalidParams {d : Disruption} {params : Yaml.Value} {e : Error} (known : d ∈ Disruption.all)
      (invalid : d.validate params = .error e) : Misconfigured e
  | execution (skill : String) {e : Error} (h : Misconfigured e) :
      Misconfigured (.skillExecution skill e)

namespace Disruption

open Cloud (Action Plan)

inductive Operational : Error → Prop
  | connection (text : String) : Operational (.connection text)
  | cloud (text : String) : Operational (.cloud text)
  | noAttribute (target key : String) :
      Operational (.config ("Target " ++ target ++ " has no attribute " ++ key))

theorem noParams_error {skill : String} {params : Yaml.Value} {e : Error}
    (h : noParams skill params = .error e) : e = .config (skill ++ " takes no parameters") := by
  unfold noParams at h
  split at h <;> cases h
  rfl

theorem ofParams_cases (params : Yaml.Value) :
    (∃ why, FailureSettings.ofParams params = .error (FailureSettings.invalid why)) ∨
      ∃ settings, FailureSettings.reader.read params = .ok settings ∧ settings.problem? = none ∧
        FailureSettings.ofParams params = .ok settings := by
  unfold FailureSettings.ofParams
  cases read : FailureSettings.reader.read params with
  | error wrong => exact .inl ⟨_, rfl⟩
  | ok settings =>
    change (∃ why, Except.bind (Except.ok settings) _ = _) ∨ ∃ s, _ ∧ _ ∧ Except.bind (Except.ok settings) _ = _
    cases found : settings.problem? with
    | none => exact .inr ⟨settings, rfl, found, by simp only [Except.bind, found]; rfl⟩
    | some problem => exact .inl ⟨problem.message, by simp only [Except.bind, found]; rfl⟩

theorem ofParams_error {params : Yaml.Value} {e : Error}
    (h : FailureSettings.ofParams params = .error e) : ∃ why, e = FailureSettings.invalid why := by
  obtain ⟨why, refused⟩ | ⟨settings, -, -, accepted⟩ := ofParams_cases params
  · exact ⟨why, Except.error.inj (h.symm.trans refused)⟩
  · cases h.symm.trans accepted

variable {d : Disruption}

theorem validate_error (known : d ∈ all) {params : Yaml.Value} {e : Error}
    (h : d.validate params = .error e) :
    ∃ text, e = .config text ∧ text.toList.head? ≠ some 'T' := by
  simp only [all, List.mem_cons, List.not_mem_nil, or_false] at known
  rcases known with rfl | rfl | rfl | rfl
  · change (FailureSettings.ofParams params).map (fun _ => ()) = .error e at h
    cases hp : FailureSettings.ofParams params with
    | ok settings =>
      rw [hp] at h
      cases h
    | error e' =>
      rw [hp] at h
      cases h
      obtain ⟨why, rfl⟩ := ofParams_error hp
      exact ⟨_, rfl, by simp [String.toList_append]⟩
  all_goals
    have e := noParams_error h
    exact ⟨_, e, by simp [failoverName, rebootName, templateRunName]⟩

theorem misconfigured_cases {e : Error} (h : e.Misconfigured) :
    (∃ text, e = .config text ∧ text.toList.head? ≠ some 'T') ∨
      ∃ skill e', e = .skillExecution skill e' ∧ e'.Misconfigured := by
  cases h with
  | unknownSkill skill => exact .inl ⟨_, rfl, by simp [String.toList_append]⟩
  | wrongKind skill kind => exact .inl ⟨_, rfl, by simp [String.toList_append]⟩
  | invalidParams known invalid => exact .inl (validate_error known invalid)
  | execution skill h => exact .inr ⟨skill, _, rfl, h⟩

theorem Operational.not_misconfigured {e : Error} (h : Operational e) : ¬ e.Misconfigured := by
  intro wrong
  -- A missing attribute is a matter of configuration too: only the first letter of its text tells it apart.
  obtain ⟨text, shape, head⟩ | ⟨skill, e', shape, _⟩ := misconfigured_cases wrong
  · cases h with
    | connection | cloud => cases shape
    | noAttribute target key =>
      cases shape
      simp [String.toList_append] at head
  · cases h <;> cases shape

open Cloud.Action (Errs)

variable {ctx : Context Connection}

theorem errs_accessOf : (liftM (accessOf ctx) : Action Access).Errs Operational := by
  refine .except ?_
  intro e h
  unfold accessOf Registry.forTarget at h
  split at h
  · split at h
    · cases h
    · cases h
      exact .connection _
  · cases h
    exact .connection _

theorem errs_needed (key : String) : (liftM (needed ctx.target key) : Action String).Errs Operational := by
  refine .except ?_
  intro e h
  unfold needed at h
  split at h
  · cases h
  · cases h
    exact .noAttribute _ _

theorem errs_send {a : Access} {r : Cloud.Request} {what : String} :
    (Action.send a r what).Errs Operational :=
  .send .cloud

theorem errs_started (skill : String) (t : Target) (undo : Yaml.Value) :
    (started skill t undo).Errs Operational :=
  (Errs.plan _).bind fun _ => (Errs.plan _).bind fun _ => .pure _

theorem errs_currentValue (a : Access) (parameter : String) :
    (currentValue a parameter).Errs Operational := by
  refine (Errs.plan _).bind fun answer => ?_
  cases answer with
  | ok value => exact .pure _
  | error e =>
    simp only
    split
    · exact .pure _
    · exact .throw (.cloud _)

theorem errs_inject (valid : ∃ settings, FailureSettings.ofParams ctx.params = .ok settings) :
    (inject ctx).Errs Operational := by
  obtain ⟨settings, read⟩ := valid
  unfold inject
  rw [read]
  refine Errs.bind ?_ fun settings => errs_accessOf.bind fun a => (errs_needed _).bind fun parameter =>
    (errs_currentValue _ _).bind fun previous => errs_send.bind fun _ => errs_started _ _ _
  exact .except (by rintro e ⟨⟩)

theorem errs_failOver : (failOver ctx).Errs Operational :=
  errs_accessOf.bind fun _ => (errs_needed _).bind fun _ => (errs_needed _).bind fun _ =>
    errs_send.bind fun _ => errs_started _ _ _

theorem errs_rebootBroker : (rebootBroker ctx).Errs Operational := by
  refine errs_accessOf.bind fun _ => (errs_needed _).bind fun _ => (errs_needed _).bind fun _ =>
    errs_send.bind fun operation => ?_
  cases operation with
  | some operation => exact errs_started _ _ _
  | none => exact .throw (.cloud _)

theorem errs_startTemplate : (startTemplate ctx).Errs Operational := by
  refine errs_accessOf.bind fun _ => (errs_needed _).bind fun _ => (Errs.plan _).bind fun _ =>
    errs_send.bind fun experiment => ?_
  cases experiment with
  | some experiment => exact errs_started _ _ _
  | none => exact .throw (.cloud _)

theorem errs_execute (known : d ∈ all) (valid : d.validate ctx.params = .ok ()) :
    (d.execute ctx).Errs Operational := by
  simp only [all, List.mem_cons, List.not_mem_nil, or_false] at known
  rcases known with rfl | rfl | rfl | rfl
  · refine errs_inject ?_
    change (FailureSettings.ofParams ctx.params).map (fun _ => ()) = .ok () at valid
    cases read : FailureSettings.ofParams ctx.params with
    | ok settings => exact ⟨settings, rfl⟩
    | error e =>
      rw [read] at valid
      cases valid
  · exact errs_failOver
  · exact errs_rebootBroker
  · exact errs_startTemplate

end Disruption

end GameDay
