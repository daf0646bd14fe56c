import GameDay.Proofs.Cloud.Parameters
import GameDay.Proofs.Disruption.Requests

namespace GameDay.Disruption

open Cloud (Action Effect ParameterStore Place Scene failureParameter? place)

variable {W : Type} {cloud : Cloud W} {s s' : Scene W}

theorem place_of_accessOf {ctx : Context Connection} {a : Access} (h : accessOf ctx = .ok a) :
    ctx.target.account? = some a.account ∧ ctx.target.region? = some a.region := by
  unfold accessOf Registry.forTarget at h
  split at h
  · split at h
    · rename_i hf
      cases h
      have reaches := List.find?_some hf
      simpa [Access.reaches] using reaches
    · cases h
  · cases h

theorem kept_toValue (i : Injected) {h : Handle} (undo : h.undo = i.toValue) :
    kept Injected.reader h = .ok i := by
  rw [kept, undo]
  obtain ⟨parameter, _ | previous⟩ := i <;> rfl

theorem sent {a : Access} {r : Cloud.Request} {answer : Except Cloud.ServiceError r.Answer}
    (h : cloud.runAction s (liftM (Cloud.Plan.send a r) : Action _) = (.ok answer, s'))
    (sendable : r.canBeSent) : cloud.send a r s.world = (answer, s'.world) := by
  change (Except.ok (cloud.sendNoted a r s).1, (cloud.sendNoted a r s).2) = _ at h
  unfold Cloud.sendNoted at h
  rw [if_pos sendable] at h
  cases h
  rfl

variable (store : ParameterStore cloud)

theorem currentValue_spec {a : Access} {name : String} {r : Except Error (Option String)}
    (h : cloud.runAction s (currentValue a name) = (r, s')) :
    store.value s'.world = store.value s.world ∧
      ∀ v, r = .ok v → v = store.value s.world (place a name) := by
  unfold currentValue at h
  rw [Cloud.runAction_bind] at h
  obtain ⟨answer, s₁, h₁⟩ : ∃ answer s₁, cloud.runAction s
    (liftM (Cloud.Plan.send a (.getParameter name)) : Action _) = (.ok answer, s₁) := ⟨_, _, rfl⟩
  have asked := sent h₁ rfl
  have kept : store.value s₁.world = store.value s.world := by
    have reads : ¬ (Cloud.Request.getParameter name).WritesParameter := not_false
    have := store.unwritten a s.world reads
    rwa [asked] at this
  rw [h₁] at h
  cases answer with
  | ok value =>
    cases h
    refine ⟨kept, ?_⟩
    rintro v ⟨⟩
    exact store.got asked
  | error e =>
    simp only at h
    split at h
    · rename_i missing
      cases h
      refine ⟨kept, ?_⟩
      rintro v ⟨⟩
      exact (store.unknown asked missing).symm
    · cases h
      exact ⟨kept, by rintro v ⟨⟩⟩

def SetTo (κ : Place) (v : Option String) (before after : Place → Option String) :
    Except Error Unit → Prop
  | .ok () => after = Function.update before κ v
  | .error _ => after = before

theorem setValue_spec {a : Access} {name v : String} {r : Except Error Unit}
    (h : cloud.runAction s (setValue a name v) = (r, s')) :
    SetTo (place a name) (some v) (store.value s.world) (store.value s'.world) r := by
  unfold setValue Action.send at h
  rw [Cloud.runAction_bind] at h
  obtain ⟨answer, s₁, h₁⟩ : ∃ answer s₁, cloud.runAction s
    (liftM (Cloud.Plan.send a (.putParameter name v)) : Action _) = (.ok answer, s₁) := ⟨_, _, rfl⟩
  have asked := sent h₁ rfl
  rw [h₁] at h
  cases answer with
  | ok _ =>
    cases h
    exact store.put asked
  | error e =>
    cases h
    exact store.refused asked

theorem removeValue_spec {a : Access} {name : String} {r : Except Error Unit}
    (h : cloud.runAction s (removeValue a name) = (r, s')) :
    SetTo (place a name) none (store.value s.world) (store.value s'.world) r := by
  unfold removeValue at h
  rw [Cloud.runAction_bind] at h
  obtain ⟨answer, s₁, h₁⟩ : ∃ answer s₁, cloud.runAction s
    (liftM (Cloud.Plan.send a (.deleteParameter name)) : Action _) = (.ok answer, s₁) := ⟨_, _, rfl⟩
  have asked := sent h₁ rfl
  rw [h₁] at h
  cases answer with
  | ok _ =>
    cases h
    exact store.deleted asked
  | error e =>
    simp only at h
    split at h
    · rename_i missing
      cases h
      have absent := store.gone asked missing
      simp only [SetTo]
      rw [store.refused asked, ← absent, Function.update_eq_self]
    · cases h
      exact store.refused asked

theorem started_leaves (skill : String) (t : Target) (undo : Yaml.Value) :
    (started skill t undo).run.Within Effect.LeavesParameters :=
  .action_bind (.action_plan (.effect trivial)) fun _ =>
    .action_bind (.action_plan (.effect trivial)) fun _ => .pure _

theorem needed_ok {t : Target} {key value : String} (h : needed t key = .ok value) :
    t.attribute? key = some value := by
  unfold needed at h
  split at h
  · rename_i hv
    cases h
    exact hv
  · cases h

theorem inject_ok {ctx : Context Connection} {h : Handle}
    (hr : cloud.runAction s (inject ctx) = (.ok h, s')) :
    ∃ κ, failureParameter? ctx.target = some κ ∧
      h.undo = Injected.toValue ⟨κ.name, store.value s.world κ⟩ ∧
      ∃ settings, FailureSettings.ofParams ctx.params = .ok settings ∧
        store.value s'.world = Function.update (store.value s.world) κ (some settings.document) := by
  unfold inject at hr
  obtain ⟨_, _, ⟨⟩, _⟩ | ⟨settings, read, hr⟩ := cloud.runAction_except_cases hr
  obtain ⟨_, _, ⟨⟩, _⟩ | ⟨a, found, hr⟩ := cloud.runAction_except_cases hr
  obtain ⟨_, _, ⟨⟩, _⟩ | ⟨parameter, named, hr⟩ := cloud.runAction_except_cases hr
  obtain ⟨previous, s₁, h₁, hr⟩ := cloud.ok_of_runAction_bind hr
  obtain ⟨_, s₂, h₂, hr⟩ := cloud.ok_of_runAction_bind hr
  obtain ⟨account, region⟩ := place_of_accessOf found
  obtain ⟨kept, value⟩ := currentValue_spec store h₁
  have put : store.value s₂.world = Function.update (store.value s₁.world) _ _ :=
    setValue_spec store h₂
  have last := store.action_keeps (started_leaves _ _ _) hr
  refine ⟨place a parameter, ?_, ?_, settings, read, by rw [last, put, kept]⟩
  · simp [failureParameter?, account, region, needed_ok named, place]
  · cases hr
    rw [value previous rfl]
    rfl

theorem inject_error {ctx : Context Connection} {e : Error}
    (hr : cloud.runAction s (inject ctx) = (.error e, s')) :
    store.value s'.world = store.value s.world := by
  unfold inject at hr
  obtain ⟨_, _, _, rfl⟩ | ⟨settings, _, hr⟩ := cloud.runAction_except_cases hr
  · rfl
  obtain ⟨_, _, _, rfl⟩ | ⟨a, _, hr⟩ := cloud.runAction_except_cases hr
  · rfl
  obtain ⟨_, _, _, rfl⟩ | ⟨parameter, _, hr⟩ := cloud.runAction_except_cases hr
  · rfl
  obtain h₁ | ⟨previous, s₁, h₁, hr⟩ := cloud.error_of_runAction_bind hr
  · exact (currentValue_spec store h₁).1
  obtain h₂ | ⟨_, s₂, h₂, hr⟩ := cloud.error_of_runAction_bind hr
  · exact (setValue_spec store h₂).trans (currentValue_spec store h₁).1
  · cases hr

theorem restore_spec {ctx : Context Connection} {h : Handle} {κ : Place} {v : Option String}
    {r : Except Error Unit} (at_ : failureParameter? ctx.target = some κ)
    (undo : h.undo = Injected.toValue ⟨κ.name, v⟩)
    (hr : cloud.runAction s (restore ctx h) = (r, s')) :
    SetTo κ v (store.value s.world) (store.value s'.world) r := by
  unfold restore at hr
  rw [Cloud.runAction_except_bind, kept_toValue _ undo] at hr
  obtain ⟨e, _, rfl, rfl⟩ | ⟨a, found, hr⟩ := cloud.runAction_except_cases hr
  · rfl
  obtain ⟨account, region⟩ := place_of_accessOf found
  have here : place a κ.name = κ := by
    unfold failureParameter? at at_
    rw [account, region] at at_
    split at at_
    · rename_i h₁ h₂ _
      cases h₁
      cases h₂
      cases at_
      rfl
    · cases at_
  cases v with
  | some value => simpa [here] using setValue_spec store hr
  | none => simpa [here] using removeValue_spec store hr

theorem leaves_of_reaches {ctx : Context Connection} {kind : TargetKind} (other : kind ≠ .lambda)
    {e : Effect} (h : Reaches ctx kind e) : e.LeavesParameters := by
  cases e with
  | send a request =>
    obtain ⟨_, about⟩ := h
    intro writes
    cases request <;> first | exact False.elim writes | exact other about.symm
  | lookUp | record | clock | freshId => trivial

variable {d : Disruption}

theorem injection_mem : injection ∈ all := List.mem_cons_self

theorem eq_injection (known : d ∈ all) (named : d.descriptor.name = FailureSettings.skillName) :
    d = injection :=
  eq_of_name known injection_mem named

theorem kind_ne_lambda (known : d ∈ all) (other : d.descriptor.name ≠ FailureSettings.skillName) :
    d.descriptor.kind ≠ .lambda :=
  kind_ne_of_name_ne known injection_mem other

theorem execute_leaves (known : d ∈ all) (other : d.descriptor.name ≠ FailureSettings.skillName)
    (ctx : Context Connection) : (d.execute ctx).run.Within Effect.LeavesParameters :=
  (reaches_execute ctx known).mono fun _ => leaves_of_reaches (kind_ne_lambda known other)

theorem rollback_leaves (known : d ∈ all) (other : d.descriptor.name ≠ FailureSettings.skillName)
    (ctx : Context Connection) (h : Handle) :
    (d.rollback ctx h).run.Within Effect.LeavesParameters :=
  (reaches_rollback ctx h known).mono fun _ => leaves_of_reaches (kind_ne_lambda known other)

theorem status_leaves (known : d ∈ all) (ctx : Context Connection) (h : Handle) :
    (d.status ctx h).run.Within Effect.LeavesParameters := by
  by_cases injects : d.descriptor.name = FailureSettings.skillName
  · rw [eq_injection known injects]
    exact .pure _
  · exact (reaches_status ctx h known).mono fun _ => leaves_of_reaches (kind_ne_lambda known injects)

end GameDay.Disruption
