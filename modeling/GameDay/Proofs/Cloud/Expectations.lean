import GameDay.Proofs.Cloud.FanOut

/-!
Plans under expectations: what they do and end with, as long as they are told what is expected. Many are
compared with what they would come to if every effect were always answered alike.
-/

namespace GameDay.Cloud

variable {α β : Type}

namespace Plan

def eval (reply : (e : Effect) → e.Answer) : Plan α → α
  | done a => a
  | perform e next => (next (reply e)).eval reply

section

variable (reply : (e : Effect) → e.Answer)

@[simp] theorem eval_done (a : α) : (done a).eval reply = a := rfl

@[simp] theorem eval_pure (a : α) : (Pure.pure a : Plan α).eval reply = a := rfl

@[simp] theorem eval_bind (p : Plan α) (f : α → Plan β) :
    (p >>= f).eval reply = (f (p.eval reply)).eval reply := by
  induction p with
  | done a => rfl
  | perform e next ih => exact ih _

@[simp] theorem eval_effect (e : Effect) : (effect e).eval reply = reply e := rfl

@[simp] theorem eval_send (a : Access) (request : Request) :
    (send a request).eval reply = reply (.send a request) := rfl

theorem eval_gather_succ (ask : Option String → Plan (Except ServiceError (Page α))) (follow : Follow)
    (each : α → Plan (List β)) (limit : Nat) (token : Option String) :
    (gather ask follow each (limit + 1) token).eval reply = match (ask token).eval reply with
      | .error e => { fault := some (.refused e) }
      | .ok page =>
        let found := (forEach each page.items).eval reply
        match follow token page.next with
        | none => { found }
        | some next =>
          let more := (gather ask follow each limit (some next)).eval reply
          { more with found := found ++ more.found } := by
  rw [gather, eval_bind]
  cases (ask token).eval reply with
  | error e => rfl
  | ok page =>
    simp only [eval_bind]
    cases follow token page.next with
    | none => rfl
    | some next => simp only [eval_bind, eval_pure]

theorem eval_pages (ask : Option String → Plan (Except ServiceError (Page α))) (follow : Follow)
    (each : α → Plan (List β)) (limit : Nat) (token : Option String) :
    (pages ask follow each limit token).eval reply = ((gather ask follow each limit token).eval reply).whole :=
  eval_bind _ _ _

section congr

variable {each each' : α → Plan (List β)} (he : ∀ a, (each a).eval reply = (each' a).eval reply)
include he

theorem eval_forEach_congr (as : List α) : (forEach each as).eval reply = (forEach each' as).eval reply := by
  induction as with
  | nil => rfl
  | cons a as ih =>
    simp only [forEach, eval_bind, eval_pure]
    rw [he, ih]

variable {ask ask' : Option String → Plan (Except ServiceError (Page α))}
  (ha : ∀ token, (ask token).eval reply = (ask' token).eval reply) (follow : Follow) (limit : Nat)
  (token : Option String)
include ha

theorem eval_gather_congr :
    (gather ask follow each limit token).eval reply = (gather ask' follow each' limit token).eval reply := by
  induction limit generalizing token with
  | zero => rfl
  | succ limit ih =>
    simp only [eval_gather_succ, ha, ih, eval_forEach_congr reply he]

theorem eval_pages_congr :
    (pages ask follow each limit token).eval reply = (pages ask' follow each' limit token).eval reply := by
  rw [eval_pages, eval_pages, eval_gather_congr reply he ha]

end congr

end

/-- As long as it is told what is expected, a plan takes allowed steps and ends with a result of a
certain kind. -/
inductive Obeys (told : (e : Effect) → e.Answer → Prop) (allowed : Effect → Prop) (kind : α → Prop) :
    Plan α → Prop
  | done {a : α} (h : kind a) : Obeys told allowed kind (.done a)
  | perform {e : Effect} {next : e.Answer → Plan α} (here : allowed e)
      (later : ∀ answer, told e answer → Obeys told allowed kind (next answer)) :
      Obeys told allowed kind (.perform e next)

namespace Obeys

variable {told : (e : Effect) → e.Answer → Prop} {allowed : Effect → Prop} {kind : α → Prop}
  {last : β → Prop}

theorem pure {a : α} (h : kind a) : Obeys told allowed kind (Pure.pure a : Plan α) := .done h

theorem bind {p : Plan α} {f : α → Plan β} (hp : p.Obeys told allowed kind)
    (hf : ∀ a, kind a → (f a).Obeys told allowed last) : (p >>= f).Obeys told allowed last := by
  induction hp with
  | done h => exact hf _ h
  | perform here _ ih => exact .perform here ih

theorem effect {e : Effect} (h : allowed e) : (effect e).Obeys told allowed (told e) :=
  .perform h fun _ here => .done here

theorem mono {more : α → Prop} {p : Plan α} (h : p.Obeys told allowed kind)
    (le : ∀ a, kind a → more a) : p.Obeys told allowed more := by
  induction h with
  | done h => exact .done (le _ h)
  | perform here _ ih => exact .perform here ih

theorem reached {p q : Plan α} (h : p.Obeys told allowed kind) (r : p.Reaches told q) :
    q.Obeys told allowed kind := by
  induction r with
  | refl => exact h
  | step _ here ih =>
    cases ih with
    | perform _ later => exact later _ here

theorem allowed_of_reached {p : Plan α} {e : Effect} {next : e.Answer → Plan α}
    (h : p.Obeys told allowed kind) (r : p.Reaches told (.perform e next)) : allowed e := by
  cases h.reached r with
  | perform here => exact here

theorem kind_of_reached {p : Plan α} {a : α} (h : p.Obeys told allowed kind)
    (r : p.Reaches told (.done a)) : kind a := by
  cases h.reached r with
  | done h => exact h

end Obeys

end Plan

/-- Two findings fail for the same reason, or are as long and correspond one by one. -/
inductive Like (R : α → α → Prop) : Except Fault (List α) → Except Fault (List α) → Prop
  | ok {xs ys : List α} (h : List.Forall₂ R xs ys) : Like R (.ok xs) (.ok ys)
  | error (e : Fault) : Like R (.error e) (.error e)

namespace Like

variable {R : α → α → Prop} {r s : Except Fault (List α)}

theorem foundBy (h : Like R r s) : List.Forall₂ R (FanOut.foundBy r) (FanOut.foundBy s) := by
  cases h with
  | ok h => exact h
  | error => exact .nil

theorem endless_iff (h : Like R r s) : r = .error .endless ↔ s = .error .endless := by
  cases h with
  | ok h => simp
  | error e => rfl

end Like

/-- Two listings are cut short by the same, or not at all, and their items correspond one by one. -/
structure Gathered.Like (R : α → α → Prop) (g g' : Gathered α) : Prop where
  found : List.Forall₂ R g.found g'.found
  fault : g.fault = g'.fault

theorem Gathered.Like.whole {R : α → α → Prop} {g g' : Gathered α} (h : g.Like R g') :
    Cloud.Like R g.whole g'.whole := by
  unfold Gathered.whole
  rw [h.fault]
  cases g'.fault with
  | none => exact .ok h.found
  | some fault => exact .error fault

/-- Two answers refuse for the same reason, or are parts of listings whose items correspond one by one. -/
inductive SamePage (Q : α → α → Prop) : (r s : Except ServiceError (Page α)) → Prop
  | ok {xs ys : List α} (next : Option String) (h : List.Forall₂ Q xs ys) :
      SamePage Q (.ok ⟨xs, next⟩) (.ok ⟨ys, next⟩)
  | error (e : ServiceError) : SamePage Q (.error e) (.error e)

theorem SamePage.refl {Q : α → α → Prop} (reflexive : ∀ a, Q a a) (r : Except ServiceError (Page α)) :
    SamePage Q r r := by
  cases r with
  | error e => exact .error e
  | ok page => exact .ok page.next (List.forall₂_same.2 fun a _ => reflexive a)

theorem SamePage.of_eq {r s : Except ServiceError (Page α)} (same : r = s) : SamePage Eq r s :=
  same ▸ .refl (fun _ => rfl) r

namespace Plan.Obeys

variable {told : (e : Effect) → e.Answer → Prop} {allowed : Effect → Prop}
  {reply : (e : Effect) → e.Answer} {Q : α → α → Prop} {R : β → β → Prop} {here : Prop}
  {each each' : α → Plan (List β)}

theorem free (told : (e : Effect) → e.Answer → Prop) (p : Plan α) :
    p.Obeys told (fun _ => True) fun _ => True := by
  induction p with
  | done a => exact .done trivial
  | perform e next ih => exact .perform trivial fun answer _ => ih answer

theorem gather_endless {ask : Option String → Plan (Except ServiceError (Page α))}
    (ha : ∀ token, (ask token).Obeys told (fun _ => True) fun answer =>
      ∃ page next, answer = .ok page ∧ page.next = some next)
    (limit : Nat) (token : Option String) :
    (gather ask .always each limit token).Obeys told (fun _ => True) (·.fault = some .endless) := by
  induction limit generalizing token with
  | zero => exact .pure rfl
  | succ limit ih =>
    refine (ha token).bind ?_
    rintro _ ⟨page, next, rfl, more⟩
    refine (free told (forEach each page.items)).bind fun found _ => ?_
    simp only [Follow.always, more]
    exact (ih (some next)).bind fun _ endless => .pure endless

theorem forEach_like
    (he : ∀ a, (each a).Obeys told allowed fun found =>
      here → ∀ b, Q a b → List.Forall₂ R found ((each' b).eval reply)) (as : List α) :
    (forEach each as).Obeys told allowed fun found =>
      here → ∀ bs, List.Forall₂ Q as bs → List.Forall₂ R found ((forEach each' bs).eval reply) := by
  induction as with
  | nil =>
    refine .pure fun _ bs same => ?_
    cases same
    exact .nil
  | cons a as ih =>
    refine (he a).bind fun found first => ih.bind fun more rest => .pure fun h bs same => ?_
    cases same with
    | cons one others =>
      rw [forEach, eval_bind, eval_bind]
      exact List.rel_append (first h _ one) (rest h _ others)

section like

variable {ask ask' : Option String → Plan (Except ServiceError (Page α))}
  (ha : ∀ token, (ask token).Obeys told allowed fun answer =>
    here → SamePage Q answer ((ask' token).eval reply))
  (he : ∀ a, (each a).Obeys told allowed fun found =>
    here → ∀ b, Q a b → List.Forall₂ R found ((each' b).eval reply))
  (follow : Follow) (limit : Nat) (token : Option String)
include ha he

theorem gather_like : (gather ask follow each limit token).Obeys told allowed fun g =>
    here → g.Like R ((gather ask' follow each' limit token).eval reply) := by
  induction limit generalizing token with
  | zero => exact .pure fun _ => ⟨.nil, rfl⟩
  | succ limit ih =>
    refine (ha token).bind fun answer same => ?_
    rw [eval_gather_succ]
    generalize (ask' token).eval reply = answer' at same
    cases answer with
    | error e =>
      refine .pure fun h => ?_
      cases same h
      exact ⟨.nil, rfl⟩
    | ok page =>
      refine (forEach_like he page.items).bind fun found first => ?_
      cases next : follow token page.next with
      | none =>
        refine .pure fun h => ?_
        cases same h with
        | ok _ items =>
          simp only [next]
          exact ⟨first h _ items, rfl⟩
      | some t =>
        refine (ih (some t)).bind fun more rest => .pure fun h => ?_
        cases same h with
        | ok _ items =>
          simp only [next]
          exact ⟨List.rel_append (first h _ items) (rest h).found, (rest h).fault⟩

theorem pages_like : (pages ask follow each limit token).Obeys told allowed fun r =>
    here → Like R r ((pages ask' follow each' limit token).eval reply) := by
  rw [eval_pages]
  exact (gather_like ha he follow limit token).bind fun _ like => .done fun h => (like h).whole

end like

end Plan.Obeys

end GameDay.Cloud
