import GameDay.Proofs.Cloud.Plans

namespace GameDay.Cloud

variable {α β σ : Type}

namespace Plan

variable {handle : (e : Effect) → σ → e.Answer × σ}

inductive Yields (kind : α → Prop) : Plan α → Prop
  | done {a : α} (h : kind a) : Yields kind (.done a)
  | perform {e : Effect} {next : e.Answer → Plan α} (later : ∀ answer, Yields kind (next answer)) :
      Yields kind (.perform e next)

namespace Yields

variable {kind : α → Prop} {last : β → Prop}

theorem trivial (p : Plan α) : p.Yields fun _ => True := by
  induction p with
  | done a => exact .done True.intro
  | perform e next ih => exact .perform ih

theorem bind {p : Plan α} {f : α → Plan β} (hp : p.Yields kind) (hf : ∀ a, kind a → (f a).Yields last) :
    (p >>= f).Yields last := by
  induction hp with
  | done h => exact hf _ h
  | perform _ ih => exact .perform ih

theorem run {p : Plan α} (h : p.Yields kind) (s : σ) : kind (p.run handle s).1 := by
  induction h generalizing s with
  | done h => exact h
  | perform _ ih => exact ih _ _

theorem mono {more : α → Prop} {p : Plan α} (h : p.Yields kind) (le : ∀ a, kind a → more a) :
    p.Yields more := by
  induction h with
  | done h => exact .done (le _ h)
  | perform _ ih => exact .perform ih

theorem forEach {each : α → Plan (List β)} (h : ∀ a, (each a).Yields fun found => ∀ b ∈ found, last b)
    (as : List α) : (forEach each as).Yields fun found => ∀ b ∈ found, last b := by
  induction as with
  | nil => exact .done (by simp)
  | cons a as ih =>
    refine (h a).bind fun found here => ih.bind fun more there => .done ?_
    exact List.forall_mem_append.2 ⟨here, there⟩

section listings

variable {ask : Option String → Plan (Except ServiceError (Page α))} {each : α → Plan (List β)}
  (h : ∀ a, (each a).Yields fun found => ∀ b ∈ found, last b) (follow : Follow) (limit : Nat)
  (token : Option String)
include h

theorem gather : (gather ask follow each limit token).Yields fun g => ∀ b ∈ g.found, last b := by
  induction limit generalizing token with
  | zero => exact .done (by simp)
  | succ limit ih =>
    refine (trivial _).bind fun answer _ => ?_
    cases answer with
    | error e => exact .done (by simp)
    | ok page =>
      refine (forEach h page.items).bind fun found here => ?_
      split
      · exact .done here
      · exact (ih _).bind fun more there => .done (List.forall_mem_append.2 ⟨here, there⟩)

theorem pages : (pages ask follow each limit token).Yields fun r =>
    ∀ found, r = .ok found → ∀ b ∈ found, last b := by
  refine (gather h follow limit token).bind fun g known => .done fun found whole => ?_
  rw [← (Gathered.whole_eq_ok.1 whole).2]
  exact known

end listings

end Yields

end Plan

def Action.Errs (kind : Error → Prop) (x : Action α) : Prop :=
  x.run.Yields fun answer => ∀ e, answer = .error e → kind e

namespace Action.Errs

variable {kind : Error → Prop}

theorem bind {x : Action α} {f : α → Action β} (hx : x.Errs kind) (hf : ∀ a, (f a).Errs kind) :
    (x >>= f).Errs kind := by
  refine Plan.Yields.bind hx fun answer h => ?_
  cases answer with
  | ok a => exact hf a
  | error e =>
    refine .done ?_
    rintro _ ⟨⟩
    exact h e rfl

theorem pure (a : α) : (Pure.pure a : Action α).Errs kind :=
  .done fun _ h => nomatch h

theorem throw {e : Error} (h : kind e) : (throw e : Action α).Errs kind := by
  refine .done ?_
  rintro _ ⟨⟩
  exact h

theorem except {x : Except Error α} (h : ∀ e, x = .error e → kind e) :
    (liftM x : Action α).Errs kind :=
  .done h

theorem plan (p : Plan α) : (liftM p : Action α).Errs kind :=
  (Plan.Yields.trivial p).bind fun _ _ => .done fun _ h => nomatch h

theorem send {a : Access} {r : Request} {what : String} (h : ∀ text, kind (.cloud text)) :
    (Action.send a r what).Errs kind := by
  refine (plan _).bind fun answer => ?_
  cases answer with
  | ok answer => exact pure answer
  | error e => exact throw (h _)

end Action.Errs

namespace FanOut

variable (handle : (e : Effect) → σ → e.Answer × σ) (size : Nat) (workers : List (Worker α))
  (choices : List Nat) (s : σ)

def endings : List (Access × Except Fault (List α)) := (complete handle size workers choices s).1.ended

def foundBy : Except Fault (List α) → List α
  | .ok found => found
  | .error _ => []

theorem run_eq_endings : (run handle size workers choices s).1 =
    (endings handle size workers choices s).flatMap fun e => foundBy e.2 := by
  simp only [run, merged, endings]
  rfl

structure Holds (kind : Access → Except Fault (List α) → Prop) (f : FanOut α) : Prop where
  going : ∀ w ∈ f.pool.running ++ f.pool.waiting, w.plan.Yields (kind w.access)
  ended : ∀ e ∈ f.ended, kind e.1 e.2

variable {handle size workers choices s} {kind : Access → Except Fault (List α) → Prop}

theorem Holds.steps {f f' : FanOut α} {s s' : σ} (h : f.Holds kind) (step : Steps handle f s f' s') :
    f'.Holds kind := by
  cases step with
  | ends plan =>
    rename_i before after w ended result
    have here := h.going w (by simp)
    rw [plan] at here
    cases here with
    | done here =>
      constructor
      · intro v hv
        simp only [refill_perm] at hv
        exact h.going v (by grind)
      · exact List.forall_mem_append.2 ⟨h.ended, List.forall_mem_singleton.2 here⟩
  | goes plan =>
    rename_i before after w ended e next
    have going := h.going w (by simp)
    rw [plan] at going
    cases going with
    | perform later =>
      refine ⟨?_, h.ended⟩
      intro v hv
      by_cases new : v = { w with plan := next (handle e s).1 }
      · subst new
        exact later _
      · exact h.going v (by grind)

theorem Holds.turns {f : FanOut α} (h : f.Holds kind) (choices : List Nat) (s : σ) :
    (f.turns handle choices s).1.Holds kind :=
  turns_keep (P := fun f _ => f.Holds kind) Holds.steps choices h

theorem kind_of_finish (h : ∀ w ∈ workers, w.plan.Yields (kind w.access)) (s : σ) :
    ∀ e ∈ (finish handle workers s).1, kind e.1 e.2 := by
  induction workers generalizing s with
  | nil => simp [finish]
  | cons w workers ih =>
    rw [List.forall_mem_cons] at h
    exact List.forall_mem_cons.2 ⟨h.1.run s, ih h.2 _⟩

theorem kind_of_endings (h : ∀ w ∈ workers, w.plan.Yields (kind w.access)) :
    ∀ e ∈ endings handle size workers choices s, kind e.1 e.2 := by
  have begun : (start size workers).Holds kind := by
    refine ⟨?_, by simp [start]⟩
    intro w hw
    rw [start, refill_perm] at hw
    exact h w (by simpa using hw)
  have turned : ((start size workers).turns handle choices s).1.Holds kind := begun.turns choices s
  exact List.forall_mem_append.2 ⟨turned.ended, kind_of_finish turned.going _⟩

end FanOut

end GameDay.Cloud
