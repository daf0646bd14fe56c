import GameDay.Proofs.Cloud.Exchanges
import GameDay.Proofs.Disruption.Requests

namespace GameDay

namespace Cloud.Exchange

def obtained? : Exchange → Option (Access × String)
  | ⟨a, .startExperiment _ _, .ok (some id)⟩ => some (a, id)
  | _ => none

def look? : Exchange → Option (Access × String × Except ServiceError ExperimentState)
  | ⟨a, .getExperiment id, answer⟩ => some (a, id, answer)
  | _ => none

def stop? : Exchange → Option (Access × String)
  | ⟨a, .stopExperiment id, _⟩ => some (a, id)
  | _ => none

structure Silent (more : List Exchange) : Prop where
  obtained : more.filterMap obtained? = []
  looks : more.filterMap look? = []
  stops : more.filterMap stop? = []

end Cloud.Exchange

namespace Cloud

def Request.OfExperiment : Request → Prop
  | startExperiment .. | getExperiment _ | stopExperiment _ => True
  | _ => False

namespace Exchange.Silent

variable {more : List Exchange}

theorem of_requests (h : ∀ x ∈ more, ¬ x.request.OfExperiment) : Silent more := by
  constructor <;> rw [List.filterMap_eq_nil_iff] <;> intro x hx
  · unfold obtained?
    split
    · exact (h _ hx trivial).elim
    · rfl
  · unfold look?
    split
    · exact (h _ hx trivial).elim
    · rfl
  · unfold stop?
    split
    · exact (h _ hx trivial).elim
    · rfl

theorem of_kind (h : ∀ x ∈ more, x.request.kind ≠ .template) : Silent more := by
  refine of_requests fun x hx run => ?_
  have other := h x hx
  cases request : x.request <;> rw [request] at run other <;>
    first | exact other rfl | exact False.elim run

theorem of_listing (h : ∀ x ∈ more, x.request.IsListing) : Silent more := by
  refine of_requests fun x hx run => ?_
  have listing := h x hx
  cases request : x.request <;> rw [request] at run listing <;>
    first | exact False.elim run | exact False.elim listing

end Exchange.Silent

end Cloud

namespace Disruption

open Cloud (Action Effect Exchange ExperimentState Scene ServiceError Transcript)

theorem canBeSent_getExperiment {id : String} :
    (Cloud.Request.getExperiment id).canBeSent = true ↔ id ≠ "" := by
  simp [Cloud.Request.canBeSent, Cloud.Request.pathId?]

theorem canBeSent_getExperiment_eq_false {id : String} :
    (Cloud.Request.getExperiment id).canBeSent = false ↔ id = "" := by
  simp [Cloud.Request.canBeSent, Cloud.Request.pathId?]

/-- A look at an experiment that has been answered, with no state in which it has ended. -/
def unended? : Access × String × Except ServiceError ExperimentState → Option (Access × String)
  | (a, id, .ok state) => if hasEnded state then none else some (a, id)
  | (_, _, .error _) => none

/-- Each experiment is looked at once, as far as it can be addressed, and those are stopped that were
seen and have not ended. -/
structure Halts (experiments : List (Access × String)) (more : List Exchange) : Prop where
  looks : (more.filterMap Exchange.look?).map (fun l => (l.1, l.2.1)) = experiments.filter (·.2 ≠ "")
  stops : more.filterMap Exchange.stop? = (more.filterMap Exchange.look?).filterMap unended?

namespace Halts

variable {experiments others : List (Access × String)} {a b : List Exchange}

theorem nil : Halts [] [] := ⟨rfl, rfl⟩

theorem append (first : Halts experiments a) (second : Halts others b) :
    Halts (experiments ++ others) (a ++ b) := by
  constructor
  · rw [List.filterMap_append, List.map_append, first.looks, second.looks, List.filter_append]
  · rw [List.filterMap_append, List.filterMap_append, List.filterMap_append, first.stops, second.stops]

theorem of_silent (h : Exchange.Silent a) : Halts [] a :=
  ⟨by rw [h.looks]; rfl, by rw [h.stops, h.looks]; rfl⟩

variable (access : Access) {id : String}

theorem unnamed : Halts [(access, "")] [] := ⟨by simp, rfl⟩

theorem unseen (named : id ≠ "") (e : ServiceError) :
    Halts [(access, id)] [⟨access, .getExperiment id, .error e⟩] :=
  ⟨by simp [named, Exchange.look?], rfl⟩

theorem ended (named : id ≠ "") {state : ExperimentState} (past : hasEnded state = true) :
    Halts [(access, id)] [⟨access, .getExperiment id, .ok state⟩] := by
  have seen : unended? (access, id, .ok state) = none := if_pos past
  constructor
  · simp [named, Exchange.look?]
  · change [] = List.filterMap unended? [(access, id, .ok state)]
    rw [List.filterMap_cons_none seen, List.filterMap_nil]

theorem stopped (named : id ≠ "") {state : ExperimentState} (going : ¬ hasEnded state = true)
    (answer : Except ServiceError Unit) :
    Halts [(access, id)] [⟨access, .getExperiment id, .ok state⟩, ⟨access, .stopExperiment id, answer⟩] := by
  have seen : unended? (access, id, .ok state) = some (access, id) := if_neg going
  constructor
  · simp [named, Exchange.look?]
  · change [(access, id)] = List.filterMap unended? [(access, id, .ok state)]
    rw [List.filterMap_cons_some seen, List.filterMap_nil]

end Halts

def experiment? (ctx : Context Connection) (h : Handle) : Option (Access × String) :=
  match accessOf ctx, kept TemplateRun.reader h with
  | .ok a, .ok r => some (a, r.experiment)
  | _, _ => none

theorem kept_templateRun (r : TemplateRun) {h : Handle} (undo : h.undo = r.toValue) :
    kept TemplateRun.reader h = .ok r := by
  rw [kept, undo]
  rfl

variable {W : Type} {cloud : Cloud W} (t : Transcript cloud) {s s' : Scene W} {ctx : Context Connection}

theorem between_started {skill : String} {target : Target} {undo : Yaml.Value}
    {r : Except Error Handle} (hr : cloud.runAction s (started skill target undo) = (r, s')) :
    t.Between s.world s'.world [] := by
  have quiet : (started skill target undo).run.Within (Effect.Sends fun _ _ => False) :=
    sends_started _ _ _
  obtain ⟨more, between, none⟩ := t.between_action quiet hr
  cases more with
  | nil => exact between
  | cons x more => exact (none x (by simp)).elim

theorem started_ok {skill : String} {target : Target} {undo : Yaml.Value} {r : Except Error Handle}
    (hr : cloud.runAction s (started skill target undo) = (r, s')) : ∃ h, r = .ok h ∧ h.undo = undo := by
  cases hr
  exact ⟨_, rfl, rfl⟩

def Obtains (ctx : Context Connection) (more : List Exchange) : Except Error Handle → Prop
  | .ok h => more.filterMap Exchange.obtained? = (experiment? ctx h).toList
  | .error _ => more.filterMap Exchange.obtained? = []

theorem startTemplate_obtains {r : Except Error Handle}
    (hr : cloud.runAction s (startTemplate ctx) = (r, s')) :
    ∃ more, t.Between s.world s'.world more ∧ more.filterMap Exchange.stop? = [] ∧
      Obtains ctx more r := by
  unfold startTemplate at hr
  obtain ⟨e, _, rfl, rfl⟩ | ⟨a, access, hr⟩ := cloud.runAction_except_cases hr
  · exact ⟨[], .refl _, rfl, rfl⟩
  obtain ⟨e, _, rfl, rfl⟩ | ⟨template, _, hr⟩ := cloud.runAction_except_cases hr
  · exact ⟨[], .refl _, rfl, rfl⟩
  obtain ⟨token, s₁, h₁⟩ : ∃ token s₁, cloud.runAction s
    (liftM (Cloud.Plan.effect .freshId) : Action _) = (.ok token, s₁) := ⟨_, _, rfl⟩
  have first : t.Between s.world s₁.world [] := by
    cases h₁
    rw [Transcript.Between, List.append_nil]
    exact t.freshId s.world
  rw [Cloud.runAction_bind, h₁] at hr
  obtain ⟨unsendable, _⟩ | ⟨_, ⟨e, e', sent, rfl⟩ | ⟨experiment, s₂, sent, hr⟩⟩ := t.between_send_bind hr
  · cases unsendable
  · exact ⟨_, first.trans sent, rfl, rfl⟩
  cases experiment with
  | none =>
    cases hr
    exact ⟨_, first.trans sent, rfl, rfl⟩
  | some experiment =>
    have last := between_started t hr
    obtain ⟨h, rfl, undo⟩ := started_ok hr
    refine ⟨_, (first.trans sent).trans last, rfl, ?_⟩
    simp only [Obtains, experiment?, access, kept_templateRun _ undo]
    rfl

theorem stopTemplate_halts {h : Handle} {r : Except Error Unit}
    (hr : cloud.runAction s (stopTemplate ctx h) = (r, s')) :
    ∃ more, t.Between s.world s'.world more ∧ more.filterMap Exchange.obtained? = [] ∧
      Halts (experiment? ctx h).toList more := by
  unfold stopTemplate at hr
  obtain ⟨e, unread, rfl, rfl⟩ | ⟨run, read, hr⟩ := cloud.runAction_except_cases hr
  · refine ⟨[], .refl _, rfl, ?_⟩
    have none : experiment? ctx h = none := by
      unfold experiment?
      rw [unread]
      cases accessOf ctx <;> rfl
    rw [none]
    exact .nil
  obtain ⟨e, unreached, rfl, rfl⟩ | ⟨a, access, hr⟩ := cloud.runAction_except_cases hr
  · refine ⟨[], .refl _, rfl, ?_⟩
    rw [experiment?, unreached]
    exact .nil
  have aim : experiment? ctx h = some (a, run.experiment) := by rw [experiment?, access, read]
  rw [aim]
  obtain ⟨unsendable, between, _⟩ | ⟨sendable, looked⟩ := t.between_send_bind hr
  · have unnamed : run.experiment = "" := canBeSent_getExperiment_eq_false.1 unsendable
    rw [unnamed]
    exact ⟨_, between, rfl, .unnamed a⟩
  have named : run.experiment ≠ "" := canBeSent_getExperiment.1 sendable
  obtain ⟨e, _, unseen, _⟩ | ⟨state, s₁, seen, hr⟩ := looked
  · exact ⟨_, unseen, rfl, .unseen a named e⟩
  split at hr
  · rename_i past
    cases hr
    exact ⟨_, seen, rfl, .ended a named past⟩
  · rename_i going
    obtain ⟨unsendable, _⟩ | ⟨_, answer, stopped, _⟩ := t.between_send hr
    · exact (named (canBeSent_getExperiment_eq_false.1 unsendable)).elim
    · exact ⟨_, seen.trans stopped, rfl, .stopped a named going answer⟩

structure Idle (more : List Exchange) : Prop where
  obtained : more.filterMap Exchange.obtained? = []
  stops : more.filterMap Exchange.stop? = []

theorem Idle.nil : Idle [] := ⟨rfl, rfl⟩

theorem Idle.append {a b : List Exchange} (first : Idle a) (second : Idle b) : Idle (a ++ b) :=
  ⟨by rw [List.filterMap_append, first.obtained, second.obtained]; rfl,
    by rw [List.filterMap_append, first.stops, second.stops]; rfl⟩

theorem Idle.of_silent {a : List Exchange} (h : Exchange.Silent a) : Idle a := ⟨h.obtained, h.stops⟩

theorem Idle.of_looks {a : List Exchange} (h : ∀ x ∈ a, ∃ id, x.request = .getExperiment id) :
    Idle a := by
  constructor <;> rw [List.filterMap_eq_nil_iff] <;> intro x hx
  · unfold Exchange.obtained?
    split
    · obtain ⟨id, look⟩ := h _ hx
      cases look
    · rfl
  · unfold Exchange.stop?
    split
    · obtain ⟨id, look⟩ := h _ hx
      cases look
    · rfl

theorem templateProgress_looks (ctx : Context Connection) (h : Handle) :
    (templateProgress ctx h).run.Within (Effect.Sends fun _ r => ∃ id, r = .getExperiment id) :=
  .action_bind (.action_except _) fun _ => .action_bind (.action_except _) fun _ =>
    .action_bind (.action_send ⟨_, rfl⟩) fun _ => .pure _

variable {d : Disruption}

theorem templateRun_mem : templateRun ∈ all := by simp [all]

theorem eq_templateRun (known : d ∈ all) (named : d.descriptor.name = templateRunName) :
    d = templateRun :=
  eq_of_name known templateRun_mem named

theorem kind_ne_template (known : d ∈ all) (other : d.descriptor.name ≠ templateRunName) :
    d.descriptor.kind ≠ .template :=
  kind_ne_of_name_ne known templateRun_mem other

theorem silent_of_reaches {α : Type} {action : Action α} {kind : TargetKind} {r : Except Error α}
    (other : kind ≠ .template) (h : action.run.Within (Reaches ctx kind))
    (hr : cloud.runAction s action = (r, s')) :
    ∃ more, t.Between s.world s'.world more ∧ Exchange.Silent more := by
  obtain ⟨more, between, kinds⟩ := t.between_action h hr
  refine ⟨more, between, .of_kind fun x hx => ?_⟩
  rw [(kinds x hx).2]
  exact other

theorem execute_obtains (known : d ∈ all) {r : Except Error Handle}
    (hr : cloud.runAction s (d.execute ctx) = (r, s')) :
    ∃ more, t.Between s.world s'.world more ∧ more.filterMap Exchange.stop? = [] ∧
      (d.descriptor.name = templateRunName → Obtains ctx more r) ∧
      (d.descriptor.name ≠ templateRunName → more.filterMap Exchange.obtained? = []) := by
  by_cases runs : d.descriptor.name = templateRunName
  · cases eq_templateRun known runs
    obtain ⟨more, between, stops, obtains⟩ := startTemplate_obtains t hr
    exact ⟨more, between, stops, fun _ => obtains, fun other => (other rfl).elim⟩
  · obtain ⟨more, between, silent⟩ :=
      silent_of_reaches t (kind_ne_template known runs) (reaches_execute ctx known) hr
    exact ⟨more, between, silent.stops, fun run => (runs run).elim, fun _ => silent.obtained⟩

theorem rollback_halts (known : d ∈ all) {h : Handle} {r : Except Error Unit}
    (hr : cloud.runAction s (d.rollback ctx h) = (r, s')) :
    ∃ more, t.Between s.world s'.world more ∧ more.filterMap Exchange.obtained? = [] ∧
      (d.descriptor.name = templateRunName → Halts (experiment? ctx h).toList more) ∧
      (d.descriptor.name ≠ templateRunName → Halts [] more) := by
  by_cases runs : d.descriptor.name = templateRunName
  · cases eq_templateRun known runs
    obtain ⟨more, between, obtained, halts⟩ := stopTemplate_halts t hr
    exact ⟨more, between, obtained, fun _ => halts, fun other => (other rfl).elim⟩
  · obtain ⟨more, between, silent⟩ :=
      silent_of_reaches t (kind_ne_template known runs) (reaches_rollback ctx h known) hr
    exact ⟨more, between, silent.obtained, fun run => (runs run).elim, fun _ => .of_silent silent⟩

theorem status_idle (known : d ∈ all) {h : Handle} {r : Except Error SkillStatus}
    (hr : cloud.runAction s (d.status ctx h) = (r, s')) :
    ∃ more, t.Between s.world s'.world more ∧ Idle more := by
  by_cases runs : d.descriptor.name = templateRunName
  · cases eq_templateRun known runs
    obtain ⟨more, between, looks⟩ := t.between_action (templateProgress_looks ctx h) hr
    exact ⟨more, between, .of_looks looks⟩
  · obtain ⟨more, between, silent⟩ :=
      silent_of_reaches t (kind_ne_template known runs) (reaches_status ctx h known) hr
    exact ⟨more, between, .of_silent silent⟩

end Disruption

end GameDay
