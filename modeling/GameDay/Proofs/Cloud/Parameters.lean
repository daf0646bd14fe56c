import GameDay.Cloud.Agent
import GameDay.Proofs.Inventory.Requests
import Mathlib.Logic.Function.Basic

namespace GameDay.Cloud

structure Place where
  account : String
  region : String
  name : String
deriving DecidableEq

def place (a : Access) (name : String) : Place := ⟨a.account, a.region, name⟩

def failureParameter? (t : Target) : Option Place :=
  match t.account?, t.region?, t.attribute? Inventory.failureParameterKey with
  | some account, some region, some name => some ⟨account, region, name⟩
  | _, _, _ => none

def Request.WritesParameter : Request → Prop
  | putParameter .. | deleteParameter .. => True
  | _ => False

def Effect.LeavesParameters : Effect → Prop
  | .send _ request => ¬ request.WritesParameter
  | _ => True

variable {W : Type}

/-- The services keep parameters, which only requests change that are not refused. -/
structure ParameterStore (cloud : Cloud W) where
  value : W → Place → Option String
  got : ∀ {a name v w w'}, cloud.send a (.getParameter name) w = (.ok v, w') →
    v = value w (place a name)
  unknown : ∀ {a name e w w'}, cloud.send a (.getParameter name) w = (.error e, w') →
    e.isMissingParameter → value w (place a name) = none
  put : ∀ {a name v w w'}, cloud.send a (.putParameter name v) w = (.ok (), w') →
    value w' = Function.update (value w) (place a name) (some v)
  deleted : ∀ {a name w w'}, cloud.send a (.deleteParameter name) w = (.ok (), w') →
    value w' = Function.update (value w) (place a name) none
  gone : ∀ {a name e w w'}, cloud.send a (.deleteParameter name) w = (.error e, w') →
    e.isMissingParameter → value w (place a name) = none
  refused : ∀ {a request e w w'}, cloud.send a request w = (.error e, w') → value w' = value w
  unwritten : ∀ a {request} w, ¬ request.WritesParameter →
    value (cloud.send a request w).2 = value w
  freshId : ∀ w, value (cloud.freshId w).2 = value w
  turns : ∀ w, value (cloud.turns w).2 = value w
  sleep : ∀ d w, value (cloud.sleep d w) = value w

structure FreshIds (cloud : Cloud W) where
  issued : W → Uuid → Prop
  fresh : ∀ w, ¬ issued w (cloud.freshId w).1
  new : ∀ w, issued (cloud.freshId w).2 (cloud.freshId w).1
  freshId : ∀ {id w}, issued w id → issued (cloud.freshId w).2 id
  send : ∀ {id a request w}, issued w id → issued (cloud.send a request w).2 id

variable {cloud : Cloud W} {α : Type}

namespace ParameterStore

variable (store : ParameterStore cloud)

theorem perform_keeps {e : Effect} (s : Scene W) (h : e.LeavesParameters) :
    store.value (cloud.perform e s).2.world = store.value s.world := by
  cases e with
  | send a request =>
    change store.value (cloud.sendNoted a request s).2.world = _
    unfold sendNoted
    split
    · exact store.unwritten a s.world h
    · rfl
  | lookUp | record | clock => rfl
  | freshId => exact store.freshId s.world

theorem plan_keeps {p : Plan α} (h : p.Within Effect.LeavesParameters) (s : Scene W) :
    store.value (cloud.run p s).2.world = store.value s.world := by
  refine h.run_keeps (I := fun s' : Scene W => store.value s'.world = store.value s.world) ?_ rfl
  intro e s' he hs'
  exact (store.perform_keeps s' he).trans hs'

theorem action_keeps {x : Action α} (h : x.run.Within Effect.LeavesParameters) {s s' : Scene W}
    {r : Except Error α} (hr : cloud.runAction s x = (r, s')) :
    store.value s'.world = store.value s.world := by
  have kept := store.plan_keeps h s
  change store.value (cloud.runAction s x).2.world = _ at kept
  rwa [hr] at kept

end ParameterStore

namespace FreshIds

variable (ids : FreshIds cloud) {id : Uuid}

theorem perform_keeps (e : Effect) {s : Scene W} (h : ids.issued s.world id) :
    ids.issued (cloud.perform e s).2.world id := by
  cases e with
  | send a request =>
    change ids.issued (cloud.sendNoted a request s).2.world id
    unfold sendNoted
    split
    · exact ids.send h
    · exact h
  | lookUp | record | clock => exact h
  | freshId => exact ids.freshId h

theorem plan_keeps (p : Plan α) {s : Scene W} (h : ids.issued s.world id) :
    ids.issued (cloud.run p s).2.world id := by
  refine (Plan.Within.trivial p).run_keeps (I := fun s' : Scene W => ids.issued s'.world id) ?_ h
  intro e s' _ hs'
  exact ids.perform_keeps e hs'

theorem action_keeps {x : Action α} {s s' : Scene W} {r : Except Error α}
    (hr : cloud.runAction s x = (r, s')) (h : ids.issued s.world id) : ids.issued s'.world id := by
  have kept := ids.plan_keeps x.run h
  change ids.issued (cloud.runAction s x).2.world id at kept
  rwa [hr] at kept

end FreshIds

end GameDay.Cloud

namespace GameDay.Inventory

open Cloud (Effect)

theorem leaves_of_lists {a : Access} {e : Effect} (h : Lists a e) : e.LeavesParameters := by
  cases e with
  | send sender request =>
    obtain ⟨_, listing⟩ := h
    intro writes
    cases request <;> first | exact False.elim writes | exact False.elim listing
  | lookUp | record | clock | freshId => trivial

variable {W : Type} {cloud : Cloud W}

theorem everywhere_keeps (store : Cloud.ParameterStore cloud) (size : Nat) (accesses : List Access)
    (kind : TargetKind) (s : Cloud.Scene W) :
    store.value (everywhere cloud size accesses kind s).2.world = store.value s.world := by
  have leaves : ∀ w ∈ seekers cloud accesses kind, w.plan.Within Effect.LeavesParameters := by
    intro w hw
    obtain ⟨a, _, rfl⟩ := List.mem_map.1 hw
    exact (lists_ofKind _ _ _).mono fun _ => leaves_of_lists
  refine Cloud.FanOut.run_keeps
    (I := fun s' : Cloud.Scene W => store.value s'.world = store.value s.world) leaves ?_
    _ _ (store.turns s.world)
  intro e s' he hs'
  exact (store.perform_keeps s' he).trans hs'

theorem discover_keeps (store : Cloud.ParameterStore cloud) (size : Nat) (accesses : List Access)
    (kinds : List TargetKind) (s : Cloud.Scene W) :
    store.value (discover cloud size accesses kinds s).2.world = store.value s.world := by
  induction kinds generalizing s with
  | nil => rfl
  | cons kind kinds ih =>
    have first := everywhere_keeps store size accesses kind s
    rcases here : everywhere cloud size accesses kind s with ⟨_ | found, s₁⟩ <;> rw [here] at first
    · simpa only [discover, here] using first
    · simpa only [discover, here] using (ih s₁).trans first

end GameDay.Inventory
