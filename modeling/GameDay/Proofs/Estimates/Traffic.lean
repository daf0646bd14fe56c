import GameDay.Cloud.Environment
import GameDay.Inventory.Templates
import Mathlib.Data.List.Induction

/-!
Calls for estimates that run at the same time and share what they remember, while the service
replaces templates and time passes. A call goes on by one effect of its plan at a time.
-/

namespace GameDay.Estimates

open Cloud (Effect Plan Scene ServiceError)
open Inventory (FetchError estimate fetchActions)

/-- A service that keeps templates. A revision counts how often a template was replaced. -/
structure Archive where
  now : Timestamp
  template : String → Option Cloud.Template
  revision : String → Nat := fun _ => 0
  outage : Option ServiceError := none

namespace Archive

def answer (w : Archive) : (request : Cloud.Request) → Except ServiceError request.Answer
  | .getTemplate id => .ok (w.template id)
  | _ => .error ⟨none, "unknown request"⟩

def cloud : Cloud Archive where
  send _ request w :=
    (match w.outage with
      | some e => .error e
      | none => w.answer request, w)
  unsent := ⟨none, "empty identifier"⟩
  calendar := now
  clock _ := .zero
  freshId w := (⟨0⟩, w)
  sleep _ w := w
  turns w := ([], w)
  pageLimit := 0

def replace (w : Archive) (id : String) (t : Cloud.Template) : Archive :=
  { w with
    template := fun i => if i = id then some t else w.template i
    revision := fun i => if i = id then w.revision i + 1 else w.revision i }

theorem world_perform (e : Effect) (s : Scene Archive) : (cloud.perform e s).2.world = s.world := by
  cases e with
  | send a request =>
    change (cloud.sendNoted a request s).2.world = _
    unfold Cloud.sendNoted
    split <;> rfl
  | lookUp | record | clock | freshId => rfl

end Archive

structure Call where
  access : Access
  template : String
  lastUpdate : Timestamp
  plan : Plan (Except FetchError Duration)

def Call.returned? (c : Call) : Option Duration :=
  match c.plan with
  | .done (.ok d) => some d
  | _ => none

structure Traffic where
  scene : Scene Archive
  calls : List Call := []

inductive Move
  | call (access : Access) (template : String) (lastUpdate : Timestamp)
  | turn (call : Nat)
  | update (template : String) (t : Cloud.Template)
  | pass (time : Duration)
  | outage (error : Option ServiceError)

namespace Traffic

def turn (i : Nat) (s : Traffic) : Traffic :=
  match s.calls[i]? with
  | none => s
  | some c => match c.plan with
    | .done _ => s
    | .perform effect next =>
      let (answer, scene) := Archive.cloud.perform effect s.scene
      ⟨scene, s.calls.set i { c with plan := next answer }⟩

/-- A call knows of no update to come. An update takes place at the reading of the clock. -/
def apply (s : Traffic) : Move → Traffic
  | .call access template lastUpdate =>
    if lastUpdate ≤ s.scene.world.now then
      let plan := estimate (fetchActions access template) template lastUpdate
      { s with calls := s.calls ++ [{ access, template, lastUpdate, plan }] }
    else s
  | .turn i => s.turn i
  | .update template t => { s with scene.world := s.scene.world.replace template t }
  | .pass time => { s with scene.world.now := ⟨s.scene.world.now.nanos + time.nanos⟩ }
  | .outage error => { s with scene.world.outage := error }

def after (first : Archive) (moves : List Move) : Traffic :=
  moves.foldl apply ⟨{ world := first }, []⟩

def now (s : Traffic) : Timestamp := s.scene.world.now

def revision (s : Traffic) (template : String) : Nat := s.scene.world.revision template

def current? (s : Traffic) (template : String) : Option Duration :=
  (s.scene.world.template template).map fun t => t.toActions.totalDuration

def Fetching (s : Traffic) (i : Nat) (template : String) : Prop :=
  ∃ c next, s.calls[i]? = some c ∧ c.plan = .perform (.send c.access (.getTemplate template)) next

def Keeping (s : Traffic) (i : Nat) (template : String) (d : Duration) : Prop :=
  ∃ c next, s.calls[i]? = some c ∧ c.plan = .perform (.record template d) next

variable {p q : List Move} {template : String}

@[simp] theorem after_concat (first : Archive) (moves : List Move) (move : Move) :
    after first (moves ++ [move]) = (after first moves).apply move := by
  simp [after]

@[simp] theorem world_turn (i : Nat) (s : Traffic) : (s.turn i).scene.world = s.scene.world := by
  unfold turn
  split
  · rfl
  · split
    · rfl
    · exact Archive.world_perform _ _

theorem now_le_apply (s : Traffic) (move : Move) : s.now ≤ (s.apply move).now := by
  rw [Timestamp.le_iff]
  cases move with
  | call =>
    simp only [apply]
    split <;> exact Int.le_refl _
  | turn i => simp [apply, now]
  | update | outage => exact Int.le_refl _
  | pass time =>
    simp only [apply, now]
    omega

theorem template_apply (s : Traffic) (move : Move) (template : String) :
    s.revision template ≤ (s.apply move).revision template ∧
      ((s.apply move).revision template = s.revision template →
        (s.apply move).scene.world.template template = s.scene.world.template template) := by
  cases move with
  | call =>
    simp only [apply]
    split <;> exact ⟨Nat.le_refl _, fun _ => rfl⟩
  | turn i => simp [apply, revision]
  | outage | pass => exact ⟨Nat.le_refl _, fun _ => rfl⟩
  | update id t =>
    by_cases h : template = id
    · simp [apply, revision, Archive.replace, h]
    · simp [apply, revision, Archive.replace, h]

theorem now_apply_of_revision_ne {s : Traffic} {move : Move}
    (replaced : (s.apply move).revision template ≠ s.revision template) :
    (s.apply move).now = s.now := by
  cases move with
  | call =>
    simp only [apply]
    split <;> rfl
  | turn i => simp [apply, now]
  | update | outage => rfl
  | pass => exact (replaced rfl).elim

theorem now_mono (first : Archive) (h : p <+: q) : (after first p).now ≤ (after first q).now := by
  obtain ⟨rest, rfl⟩ := h
  induction rest using List.reverseRecOn with
  | nil => simp [Timestamp.le_iff]
  | append_singleton rest move ih =>
    have step := now_le_apply (after first (p ++ rest)) move
    rw [← List.append_assoc, after_concat]
    rw [Timestamp.le_iff] at *
    omega

theorem template_mono (first : Archive) (h : p <+: q) (template : String) :
    (after first p).revision template ≤ (after first q).revision template ∧
      ((after first q).revision template = (after first p).revision template →
        (after first q).scene.world.template template =
          (after first p).scene.world.template template) := by
  obtain ⟨rest, rfl⟩ := h
  induction rest using List.reverseRecOn with
  | nil => simp
  | append_singleton rest move ih =>
    have step := template_apply (after first (p ++ rest)) move template
    rw [← List.append_assoc, after_concat]
    refine ⟨Nat.le_trans ih.1 step.1, fun same => ?_⟩
    have between : (after first (p ++ rest)).revision template = (after first p).revision template := by
      omega
    rw [step.2 (by omega), ih.2 between]

end Traffic

end GameDay.Estimates
