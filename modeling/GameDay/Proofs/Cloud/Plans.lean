import GameDay.Cloud.Environment
import GameDay.Cloud.FanOut
import GameDay.Cloud.Listing

namespace GameDay.Cloud

variable {α β σ : Type}

def Effect.Sends (kind : Access → Request → Prop) : Effect → Prop
  | .send access request => kind access request
  | _ => True

namespace Plan

inductive Within (allowed : Effect → Prop) : Plan α → Prop
  | done (a : α) : Within allowed (.done a)
  | perform {e : Effect} {next : e.Answer → Plan α} (here : allowed e)
      (later : ∀ answer, Within allowed (next answer)) : Within allowed (.perform e next)

variable {allowed : Effect → Prop} {handle : (e : Effect) → σ → e.Answer × σ} {I : σ → Prop}

namespace Within

theorem trivial (p : Plan α) : p.Within fun _ => True := by
  induction p with
  | done a => exact .done a
  | perform e next ih => exact .perform True.intro ih

theorem mono {more : Effect → Prop} {p : Plan α} (h : p.Within allowed)
    (le : ∀ e, allowed e → more e) : p.Within more := by
  induction h with
  | done a => exact .done a
  | perform here _ ih => exact .perform (le _ here) ih

theorem pure (a : α) : Within allowed (Pure.pure a : Plan α) := .done a

theorem bind {p : Plan α} {f : α → Plan β} (hp : p.Within allowed) (hf : ∀ a, (f a).Within allowed) :
    (p >>= f).Within allowed := by
  induction hp with
  | done a => exact hf a
  | perform here _ ih => exact .perform here ih

theorem effect {e : Effect} (h : allowed e) : (effect e).Within allowed :=
  .perform h fun a => .done a

theorem action_bind {x : Action α} {f : α → Action β} (hx : x.run.Within allowed)
    (hf : ∀ a, (f a).run.Within allowed) : (x >>= f).run.Within allowed := by
  refine hx.bind fun answer => ?_
  cases answer with
  | ok a => exact hf a
  | error e => exact .done _

theorem action_except (x : Except Error α) : (liftM x : Action α).run.Within allowed := .done _

theorem action_except_bind {x : Except Error α} {f : α → Action β}
    (h : ∀ a, x = .ok a → (f a).run.Within allowed) : (liftM x >>= f : Action β).run.Within allowed := by
  cases x with
  | ok a => exact h a rfl
  | error e => exact .done _

theorem action_plan {p : Plan α} (h : p.Within allowed) :
    (liftM p : Action α).run.Within allowed :=
  h.bind fun _ => .done _

theorem action_send {a : Access} {r : Request} {what : String} (h : allowed (.send a r)) :
    (Action.send a r what).run.Within allowed := by
  refine action_bind (action_plan (effect h)) fun answer => ?_
  cases answer <;> exact .done _

theorem forEach {each : α → Plan (List β)} (h : ∀ a, (each a).Within allowed) (as : List α) :
    (forEach each as).Within allowed := by
  induction as with
  | nil => exact .pure _
  | cons a as ih => exact (h a).bind fun _ => ih.bind fun _ => .pure _

section listings

variable {ask : Option String → Plan (Except ServiceError (Page α))} {each : α → Plan (List β)}
  (ha : ∀ token, (ask token).Within allowed) (he : ∀ a, (each a).Within allowed) (follow : Follow)
  (limit : Nat) (token : Option String)
include ha he

theorem gather : (gather ask follow each limit token).Within allowed := by
  induction limit generalizing token with
  | zero => exact .pure _
  | succ limit ih =>
    refine (ha token).bind fun answer => ?_
    cases answer with
    | error e => exact .pure _
    | ok page =>
      refine (forEach he page.items).bind fun found => ?_
      split
      · exact .pure _
      · exact (ih _).bind fun more => .pure _

theorem pages : (pages ask follow each limit token).Within allowed :=
  (gather ha he follow limit token).bind fun _ => .pure _

end listings

theorem run_keeps {p : Plan α} (h : p.Within allowed)
    (keeps : ∀ e s, allowed e → I s → I (handle e s).2) {s : σ} (hs : I s) :
    I (p.run handle s).2 := by
  induction h generalizing s with
  | done a => exact hs
  | perform here _ ih => exact ih _ (keeps _ _ here hs)

end Within

end Plan

namespace FanOut

variable {allowed : Effect → Prop} {handle : (e : Effect) → σ → e.Answer × σ} {I : σ → Prop}

def Within (allowed : Effect → Prop) (f : FanOut α) : Prop :=
  ∀ w ∈ f.pool.running ++ f.pool.waiting, w.plan.Within allowed

theorem refill_perm (p : Pool (Worker α) (Worker α)) :
    (p.refill id).running ++ (p.refill id).waiting = p.running ++ p.waiting := by
  simp [Pool.refill]

inductive Steps (handle : (e : Effect) → σ → e.Answer × σ) : FanOut α → σ → FanOut α → σ → Prop
  | ends {size : Nat} {waiting before after : List (Worker α)} {w : Worker α}
      {ended : List (Access × Except Fault (List α))} {result : Except Fault (List α)} {s : σ}
      (plan : w.plan = .done result) :
      Steps handle ⟨⟨size, waiting, before ++ w :: after⟩, ended⟩ s
        ⟨Pool.refill id ⟨size, waiting, before ++ after⟩, ended ++ [(w.access, result)]⟩ s
  | goes {size : Nat} {waiting before after : List (Worker α)} {w : Worker α}
      {ended : List (Access × Except Fault (List α))} {e : Effect}
      {next : e.Answer → Findings α} {s : σ} (plan : w.plan = .perform e next) :
      Steps handle ⟨⟨size, waiting, before ++ w :: after⟩, ended⟩ s
        ⟨⟨size, waiting, before ++ { w with plan := next (handle e s).1 } :: after⟩, ended⟩
        (handle e s).2

theorem turn_cases (handle : (e : Effect) → σ → e.Answer × σ) (choice : Nat) (f : FanOut α) (s : σ) :
    f.turn handle choice s = (f, s) ∨
      Steps handle f s (f.turn handle choice s).1 (f.turn handle choice s).2 := by
  obtain ⟨⟨size, waiting, running⟩, ended⟩ := f
  unfold FanOut.turn
  simp only
  generalize choice % running.length = i
  split
  · exact .inl rfl
  · rename_i w hw
    right
    obtain ⟨within, here⟩ := List.getElem?_eq_some_iff.1 hw
    have parts : running = running.take i ++ w :: running.drop (i + 1) := by
      rw [← here, List.getElem_cons_drop, List.take_append_drop]
    split
    · rename_i result plan
      rw [retire, List.eraseIdx_eq_take_drop_succ]
      conv => arg 2; rw [parts]
      exact .ends plan
    · rename_i e next plan
      rw [List.set_eq_take_append_cons_drop, if_pos within]
      conv => arg 2; rw [parts]
      exact .goes plan

theorem turns_keep {P : FanOut α → σ → Prop}
    (step : ∀ {f s f' s'}, P f s → Steps handle f s f' s' → P f' s') (choices : List Nat)
    {f : FanOut α} {s : σ} (h : P f s) :
    P (f.turns handle choices s).1 (f.turns handle choices s).2 := by
  induction choices generalizing f s with
  | nil => exact h
  | cons choice choices ih =>
    have kept : P (f.turn handle choice s).1 (f.turn handle choice s).2 := by
      rcases turn_cases handle choice f s with same | stepped
      · rw [same]
        exact h
      · exact step h stepped
    exact ih kept

theorem Within.steps {f f' : FanOut α} {s s' : σ}
    (keeps : ∀ e s, allowed e → I s → I (handle e s).2) (h : f.Within allowed ∧ I s)
    (step : Steps handle f s f' s') : f'.Within allowed ∧ I s' := by
  obtain ⟨h, hs⟩ := h
  cases step with
  | ends plan =>
    refine ⟨?_, hs⟩
    intro v hv
    simp only [refill_perm] at hv
    exact h v (by grind)
  | goes plan =>
    rename_i before after w ended e next
    have going := h w (by simp)
    rw [plan] at going
    cases going with
    | perform here later =>
      refine ⟨?_, keeps _ _ here hs⟩
      intro v hv
      by_cases new : v = { w with plan := next (handle e s).1 }
      · subst new
        exact later _
      · exact h v (by grind)

theorem Within.turns {f : FanOut α} (h : f.Within allowed)
    (keeps : ∀ e s, allowed e → I s → I (handle e s).2) (choices : List Nat) {s : σ} (hs : I s) :
    (f.turns handle choices s).1.Within allowed ∧ I (f.turns handle choices s).2 :=
  turns_keep (P := fun f s => f.Within allowed ∧ I s) (Within.steps keeps) choices ⟨h, hs⟩

theorem finish_keeps {workers : List (Worker α)} (h : ∀ w ∈ workers, w.plan.Within allowed)
    (keeps : ∀ e s, allowed e → I s → I (handle e s).2) {s : σ} (hs : I s) :
    I (finish handle workers s).2 := by
  induction workers generalizing s with
  | nil => exact hs
  | cons w workers ih =>
    rw [List.forall_mem_cons] at h
    exact ih h.2 (h.1.run_keeps keeps hs)

theorem run_keeps {workers : List (Worker α)} (h : ∀ w ∈ workers, w.plan.Within allowed)
    (keeps : ∀ e s, allowed e → I s → I (handle e s).2) (size : Nat) (choices : List Nat) {s : σ}
    (hs : I s) : I (run handle size workers choices s).2 := by
  have begun : (start size workers).Within allowed := by
    intro w hw
    rw [start, refill_perm] at hw
    exact h w (by simpa using hw)
  obtain ⟨h', hs'⟩ := begun.turns keeps choices hs
  exact finish_keeps h' keeps hs'

end FanOut

end GameDay.Cloud

namespace GameDay.Cloud

variable {W α β : Type} (cloud : Cloud W) (s : Scene W)

def runAction (action : Action α) : Except Error α × Scene W := cloud.run action.run s

theorem runAction_except (x : Except Error α) : cloud.runAction s (liftM x : Action α) = (x, s) := rfl

theorem runAction_bind (x : Action α) (f : α → Action β) : cloud.runAction s (x >>= f) =
    match cloud.runAction s x with
    | (.ok a, s) => cloud.runAction s (f a)
    | (.error e, s) => (.error e, s) := by
  have h := Plan.run_bind cloud.perform x.run (ExceptT.bindCont f) s
  change (x.run.bind (ExceptT.bindCont f)).run cloud.perform s = _
  rw [h]
  unfold runAction run
  obtain ⟨answer, s'⟩ := x.run.run cloud.perform s
  cases answer <;> rfl

theorem runAction_except_bind (x : Except Error α) (f : α → Action β) :
    cloud.runAction s (liftM x >>= f) =
      match x with
      | .ok a => cloud.runAction s (f a)
      | .error e => (.error e, s) := by
  rw [runAction_bind, runAction_except]
  cases x <;> rfl

theorem runAction_except_cases {x : Except Error α} {f : α → Action β} {s s' : Scene W}
    {r : Except Error β} (h : cloud.runAction s (liftM x >>= f) = (r, s')) :
    (∃ e, x = .error e ∧ r = .error e ∧ s' = s) ∨
      ∃ a, x = .ok a ∧ cloud.runAction s (f a) = (r, s') := by
  rw [runAction_bind, runAction_except] at h
  cases x with
  | ok a => exact .inr ⟨a, rfl, h⟩
  | error e =>
    cases h
    exact .inl ⟨e, rfl, rfl, rfl⟩

theorem ok_of_runAction_bind {x : Action α} {f : α → Action β} {s s'' : Scene W} {b : β}
    (h : cloud.runAction s (x >>= f) = (.ok b, s'')) :
    ∃ a s', cloud.runAction s x = (.ok a, s') ∧ cloud.runAction s' (f a) = (.ok b, s'') := by
  rw [runAction_bind] at h
  split at h
  · rename_i a s' hx
    exact ⟨a, s', hx, h⟩
  · cases h

theorem error_of_runAction_bind {x : Action α} {f : α → Action β} {s s'' : Scene W} {e : Error}
    (h : cloud.runAction s (x >>= f) = (.error e, s'')) :
    cloud.runAction s x = (.error e, s'') ∨
      ∃ a s', cloud.runAction s x = (.ok a, s') ∧ cloud.runAction s' (f a) = (.error e, s'') := by
  rw [runAction_bind] at h
  split at h
  · rename_i a s' hx
    exact .inr ⟨a, s', hx, h⟩
  · rename_i hx
    cases h
    exact .inl hx

theorem calls_of_within {kind : Access → Request → Prop} {p : Plan α}
    (h : p.Within (Effect.Sends kind)) : ∃ more, (cloud.run p s).2.calls.toList =
      s.calls.toList ++ more ∧ ∀ call ∈ more, kind call.1 call.2 := by
  refine h.run_keeps (I := fun s' : Scene W => ∃ more, s'.calls.toList = s.calls.toList ++ more ∧
    ∀ call ∈ more, kind call.1 call.2) ?_ ⟨[], by simp, by simp⟩
  rintro e s' here ⟨more, calls, kinds⟩
  cases e with
  | send a r =>
    change ∃ more, (cloud.sendNoted a r s').2.calls.toList = _ ∧ _
    unfold sendNoted
    split
    · refine ⟨more ++ [(a, r)], by simp [calls], ?_⟩
      rw [List.forall_mem_append, List.forall_mem_singleton]
      exact ⟨kinds, here⟩
    · exact ⟨more, calls, kinds⟩
  | lookUp | record | clock | freshId => exact ⟨more, calls, kinds⟩

end GameDay.Cloud
