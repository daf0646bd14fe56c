import GameDay.Cloud.Agent
import GameDay.Proofs.Inventory.Requests

namespace GameDay.Cloud

structure Exchange where
  access : Access
  request : Request
  answer : Except ServiceError request.Answer

variable {W α : Type}

structure Transcript (cloud : Cloud W) where
  exchanges : W → List Exchange
  send : ∀ a r w, exchanges (cloud.send a r w).2 = exchanges w ++ [⟨a, r, (cloud.send a r w).1⟩]
  freshId : ∀ w, exchanges (cloud.freshId w).2 = exchanges w
  turns : ∀ w, exchanges (cloud.turns w).2 = exchanges w
  sleep : ∀ d w, exchanges (cloud.sleep d w) = exchanges w

def transcribed (cloud : Cloud W) : Cloud (W × List Exchange) where
  send a r w :=
    let (answer, world) := cloud.send a r w.1
    (answer, world, w.2 ++ [⟨a, r, answer⟩])
  unsent := cloud.unsent
  calendar w := cloud.calendar w.1
  clock w := cloud.clock w.1
  freshId w := let (id, world) := cloud.freshId w.1; (id, world, w.2)
  sleep d w := (cloud.sleep d w.1, w.2)
  turns w := let (choices, world) := cloud.turns w.1; (choices, world, w.2)
  pageLimit := cloud.pageLimit

def transcript (cloud : Cloud W) : Transcript cloud.transcribed where
  exchanges w := w.2
  send _ _ _ := rfl
  freshId _ := rfl
  turns _ := rfl
  sleep _ _ := rfl

namespace Transcript

variable {cloud : Cloud W} (t : Transcript cloud) {kind : Access → Request → Prop}

def Between (u v : W) (more : List Exchange) : Prop := t.exchanges v = t.exchanges u ++ more

variable {t} {u v w : W} {a b : List Exchange}

theorem Between.refl (w : W) : t.Between w w [] := by simp [Between]

theorem Between.trans (h : t.Between u v a) (h' : t.Between v w b) : t.Between u w (a ++ b) := by
  rw [Between, h', h, List.append_assoc]

variable (t)

theorem between_perform (e : Effect) (s : Scene W) (h : e.Sends kind) :
    ∃ more, t.Between s.world (cloud.perform e s).2.world more ∧
      ∀ x ∈ more, kind x.access x.request := by
  cases e with
  | send a r =>
    change ∃ more, t.Between s.world (cloud.sendNoted a r s).2.world more ∧ _
    unfold sendNoted
    split
    · exact ⟨_, t.send a r s.world, List.forall_mem_singleton.2 h⟩
    · exact ⟨[], .refl _, by simp⟩
  | lookUp | record | clock => exact ⟨[], .refl _, by simp⟩
  | freshId => exact ⟨[], by simp [Between, t.freshId, perform], by simp⟩

theorem between_step {e : Effect} (here : e.Sends kind) (w : W) (s : Scene W)
    (h : ∃ more, t.Between w s.world more ∧ ∀ x ∈ more, kind x.access x.request) :
    ∃ more, t.Between w (cloud.perform e s).2.world more ∧ ∀ x ∈ more, kind x.access x.request := by
  obtain ⟨a, before, ha⟩ := h
  obtain ⟨b, now, hb⟩ := t.between_perform e s here
  exact ⟨a ++ b, before.trans now, List.forall_mem_append.2 ⟨ha, hb⟩⟩

theorem between_run {p : Plan α} (h : p.Within (Effect.Sends kind)) (s : Scene W) :
    ∃ more, t.Between s.world (cloud.run p s).2.world more ∧ ∀ x ∈ more, kind x.access x.request := by
  refine h.run_keeps (I := fun s' : Scene W => ∃ more, t.Between s.world s'.world more ∧
    ∀ x ∈ more, kind x.access x.request) ?_ ⟨[], .refl _, by simp⟩
  exact fun e s' here before => t.between_step here s.world s' before

theorem between_action {x : Action α} (h : x.run.Within (Effect.Sends kind)) {s s' : Scene W}
    {r : Except Error α} (hr : cloud.runAction s x = (r, s')) :
    ∃ more, t.Between s.world s'.world more ∧ ∀ x ∈ more, kind x.access x.request := by
  have ran := t.between_run h s
  change ∃ more, t.Between s.world (cloud.runAction s x).2.world more ∧ _ at ran
  rwa [hr] at ran

theorem between_send {a : Access} {r : Request} {what : String} {s s' : Scene W}
    {res : Except Error r.Answer} (hr : cloud.runAction s (Action.send a r what) = (res, s')) :
    (r.canBeSent = false ∧ t.Between s.world s'.world [] ∧ ∃ e, res = .error e) ∨
      (r.canBeSent = true ∧ ∃ answer, t.Between s.world s'.world [⟨a, r, answer⟩] ∧
        res = answer.mapError (Action.refused what)) := by
  have sent : cloud.runAction s (liftM (Plan.send a r) : Action _) =
      (.ok (cloud.sendNoted a r s).1, (cloud.sendNoted a r s).2) := rfl
  have ran : res = (cloud.sendNoted a r s).1.mapError (Action.refused what) ∧
      s' = (cloud.sendNoted a r s).2 := by
    unfold Action.send at hr
    rw [runAction_bind, sent] at hr
    cases answer : (cloud.sendNoted a r s).1 with
    | ok v =>
      rw [answer] at hr
      cases hr
      exact ⟨rfl, rfl⟩
    | error e =>
      rw [answer] at hr
      cases hr
      exact ⟨rfl, rfl⟩
  obtain ⟨rfl, rfl⟩ := ran
  unfold sendNoted
  by_cases sendable : r.canBeSent = true
  · rw [if_pos sendable]
    exact .inr ⟨sendable, _, t.send a r s.world, rfl⟩
  · rw [if_neg sendable]
    exact .inl ⟨by simpa using sendable, .refl _, _, rfl⟩

theorem between_send_bind {a : Access} {r : Request} {what : String} {f : r.Answer → Action α}
    {s s'' : Scene W} {res : Except Error α}
    (hr : cloud.runAction s (Action.send a r what >>= f) = (res, s'')) :
    (r.canBeSent = false ∧ t.Between s.world s''.world [] ∧ ∃ e, res = .error e) ∨
      (r.canBeSent = true ∧
        ((∃ e e', t.Between s.world s''.world [⟨a, r, .error e⟩] ∧ res = .error e') ∨
          ∃ v s', t.Between s.world s'.world [⟨a, r, .ok v⟩] ∧
            cloud.runAction s' (f v) = (res, s''))) := by
  obtain ⟨first, s', sent⟩ : ∃ first s', cloud.runAction s (Action.send a r what) = (first, s') :=
    ⟨_, _, rfl⟩
  rw [runAction_bind, sent] at hr
  obtain ⟨unsendable, between, e, rfl⟩ | ⟨sendable, answer, between, rfl⟩ := t.between_send sent
  · cases hr
    exact .inl ⟨unsendable, between, e, rfl⟩
  · refine .inr ⟨sendable, ?_⟩
    cases answer with
    | error e =>
      cases hr
      exact .inl ⟨e, _, between, rfl⟩
    | ok v => exact .inr ⟨v, s', between, hr⟩

open Inventory (everywhere lists_ofKind)

theorem between_everywhere (size : Nat) (accesses : List Access) (kind : TargetKind) (s : Scene W) :
    ∃ more, t.Between s.world (everywhere cloud size accesses kind s).2.world more ∧
      ∀ x ∈ more, x.request.IsListing := by
  have lists : ∀ w ∈ Inventory.seekers cloud accesses kind,
      w.plan.Within (Effect.Sends fun _ r => r.IsListing) := by
    intro w hw
    obtain ⟨a, _, rfl⟩ := List.mem_map.1 hw
    refine (lists_ofKind _ _ _).mono fun e h => ?_
    cases e with
    | send a r => exact h.2
    | lookUp | record | clock | freshId => trivial
  refine FanOut.run_keeps (I := fun s' : Scene W => ∃ more, t.Between s.world s'.world more ∧
    ∀ x ∈ more, x.request.IsListing) lists ?_ _ _ ⟨[], ?_, by simp⟩
  · exact fun e s' here before => t.between_step here s.world s' before
  · simp [Between, t.turns]

theorem between_discover (size : Nat) (accesses : List Access) (kinds : List TargetKind) (s : Scene W) :
    ∃ more, t.Between s.world (Inventory.discover cloud size accesses kinds s).2.world more ∧
      ∀ x ∈ more, x.request.IsListing := by
  induction kinds generalizing s with
  | nil => exact ⟨[], .refl _, by simp⟩
  | cons kind kinds ih =>
    obtain ⟨a, first, ha⟩ := t.between_everywhere size accesses kind s
    rcases here : everywhere cloud size accesses kind s with ⟨_ | found, s₁⟩ <;> rw [here] at first
    · simp only [Inventory.discover, here]
      exact ⟨a, first, ha⟩
    · obtain ⟨b, rest, hb⟩ := ih s₁
      simp only [Inventory.discover, here]
      exact ⟨a ++ b, first.trans rest, List.forall_mem_append.2 ⟨ha, hb⟩⟩

end Transcript

end GameDay.Cloud
