import GameDay.Cloud.Environment
import GameDay.Cloud.Listing
import Mathlib.Data.List.Chain

/-!
Listings, page by page: which pages were asked for, what each of them was answered with, and what was done
for its items before the next one. A listing ends with a page that is refused or that leads to no other; one
that does not end is cut off at its limit.
-/

namespace GameDay.Cloud

structure Visit (α ρ : Type) where
  token : Option String
  answer : Except ServiceError (Page α)
  items : List ρ

namespace Visit

variable {α ρ : Type}

def served (v : Visit α ρ) : Bool := v.answer.isOk

def listed (v : Visit α ρ) : List α :=
  match v.answer with
  | .ok page => page.items
  | .error _ => []

def next? (follow : Follow) (v : Visit α ρ) : Option String :=
  match v.answer with
  | .ok page => follow v.token page.next
  | .error _ => none

end Visit

variable {W α β γ ρ : Type} (cloud : Cloud W) {a : Access} {request : Request} {s s' : Scene W}

theorem run_bind (p : Plan α) (f : α → Plan β) (s : Scene W) :
    cloud.run (p >>= f) s = cloud.run (f (cloud.run p s).1) (cloud.run p s).2 :=
  Plan.run_bind _ _ _ _

def sent (a : Access) (request : Request) : List (Access × Request) :=
  if request.canBeSent then [(a, request)] else []

section listing

variable (ask : Option String → Plan (Except ServiceError (Page α))) (follow : Follow)
  (item : α → Scene W → ρ → Scene W → Prop)

inductive Each : List α → Scene W → List ρ → Scene W → Prop
  | nil (s : Scene W) : Each [] s [] s
  | cons {x : α} {r : ρ} {xs : List α} {rs : List ρ} {s s₁ s' : Scene W} (first : item x s r s₁)
      (rest : Each xs s₁ rs s') : Each (x :: xs) s (r :: rs) s'

/-- The pages of a listing, from a token on and as many as the limit allows. -/
inductive Listing : Nat → Option String → Scene W → List (Visit α ρ) → Scene W → Prop
  | cut (token : Option String) (s : Scene W) : Listing 0 token s [] s
  | refused {limit : Nat} {token : Option String} {s s' : Scene W} {e : ServiceError}
      (asked : cloud.run (ask token) s = (.error e, s')) :
      Listing (limit + 1) token s [⟨token, .error e, []⟩] s'
  | last {limit : Nat} {token : Option String} {s s₁ s' : Scene W} {page : Page α} {rs : List ρ}
      (asked : cloud.run (ask token) s = (.ok page, s₁)) (each : Each item page.items s₁ rs s')
      (ended : follow token page.next = none) :
      Listing (limit + 1) token s [⟨token, .ok page, rs⟩] s'
  | more {limit : Nat} {token : Option String} {s s₁ s₂ s' : Scene W} {page : Page α} {rs : List ρ}
      {next : String} {vs : List (Visit α ρ)}
      (asked : cloud.run (ask token) s = (.ok page, s₁)) (each : Each item page.items s₁ rs s₂)
      (goes : follow token page.next = some next) (rest : Listing limit (some next) s₂ vs s') :
      Listing (limit + 1) token s (⟨token, .ok page, rs⟩ :: vs) s'

def Taken (x : α) (s : Scene W) (r : α) (s' : Scene W) : Prop := r = x ∧ s' = s

/-- Each page is asked for with the token that the one before it leads to, and the last one leads to none
unless the limit is reached. -/
structure Chained (limit : Nat) (token : Option String) (vs : List (Visit α ρ)) : Prop where
  first : ∀ v ∈ vs.head?, v.token = token
  next : vs.IsChain fun v w => ∃ t, v.next? follow = some t ∧ w.token = some t
  within : vs.length ≤ limit
  stops : vs.length < limit → ∃ v, vs.getLast? = some v ∧ v.next? follow = none

def complete (vs : List (Visit α ρ)) : Bool := vs.all Visit.served && vs.any (·.next? follow = none)

structure Outcome (limit : Nat) (give : ρ → List β) (vs : List (Visit α ρ)) (g : Gathered β) : Prop where
  refused : ∀ e, g.fault = some (.refused e) ↔ ∃ v ∈ vs, v.answer = .error e
  endless : g.fault = some .endless ↔ vs.length = limit ∧ ∀ v ∈ vs, v.next? follow ≠ none
  found : g.found = vs.flatMap fun v => v.items.flatMap give

end listing

variable {cloud} {ask : Option String → Plan (Except ServiceError (Page α))} {follow : Follow}
  {item : α → Scene W → ρ → Scene W → Prop} {each : α → Plan (List β)} {give : ρ → List β} {limit : Nat}
  {token : Option String} {xs : List α} {rs : List ρ} {vs : List (Visit α ρ)}

theorem calls_send {answer : Except ServiceError request.Answer}
    (h : cloud.run (.send a request) s = (answer, s')) :
    s'.calls.toList = s.calls.toList ++ sent a request := by
  change cloud.sendNoted a request s = _ at h
  unfold sendNoted at h
  unfold sent
  split at h
  · rename_i sendable
    cases h
    simp [sendable]
  · rename_i unsendable
    cases h
    simp [unsendable]

namespace Outcome

variable {v : Visit α ρ} {page : Page α} {g : Gathered β}

theorem cut : Outcome follow 0 give ([] : List (Visit α ρ)) { fault := some .endless } :=
  ⟨by simp, by simp, rfl⟩

theorem stopped {e : ServiceError} (h : v.answer = .error e) (none : v.items = []) :
    Outcome follow (limit + 1) give [v] { fault := some (.refused e) } := by
  have ends : v.next? follow = Option.none := by rw [Visit.next?, h]
  exact ⟨by simp [h], by simp [ends], by simp [none]⟩

theorem last (h : v.answer = .ok page) (ends : v.next? follow = none) :
    Outcome follow (limit + 1) give [v] { found := v.items.flatMap give } :=
  ⟨by simp [h], by simp [ends], by simp⟩

theorem more (h : v.answer = .ok page) (goes : v.next? follow ≠ none)
    (rest : Outcome follow limit give vs g) :
    Outcome follow (limit + 1) give (v :: vs) { g with found := v.items.flatMap give ++ g.found } :=
  ⟨by simp [rest.refused, h], by simp [rest.endless, goes], by rw [rest.found, List.flatMap_cons]⟩

theorem finite_iff (h : Outcome follow limit give vs g) (chained : Chained follow limit token vs) :
    g.fault ≠ some .endless ↔ ∃ v ∈ vs, v.next? follow = none := by
  rw [Ne, h.endless]
  constructor
  · intro ended
    by_cases reached : vs.length = limit
    · by_contra unended
      exact ended ⟨reached, fun v mem ends => unended ⟨v, mem, ends⟩⟩
    · have within := chained.within
      obtain ⟨v, last, ends⟩ := chained.stops (by omega)
      exact ⟨v, List.mem_of_getLast? last, ends⟩
  · rintro ⟨v, mem, ends⟩ ⟨_, goes⟩
    exact goes v mem ends

theorem fault_eq_none_iff (h : Outcome follow limit give vs g) (chained : Chained follow limit token vs) :
    g.fault = none ↔ complete follow vs = true := by
  have served (v : Visit α ρ) : v.served = true ↔ ∀ e, v.answer ≠ .error e := by
    rw [Visit.served]
    cases v.answer <;> simp [Except.isOk, Except.toBool]
  have unrefused : (∀ e, g.fault ≠ some (.refused e)) ↔ ∀ v ∈ vs, v.served = true := by
    simp only [Ne, h.refused, served, not_exists, not_and]
    exact ⟨fun never v mem e => never e v mem, fun never e v mem => never v mem e⟩
  rw [complete, Bool.and_eq_true, List.all_eq_true, List.any_eq_true]
  simp only [decide_eq_true_eq]
  rw [← h.finite_iff chained, ← unrefused]
  rcases g.fault with _ | e | _ <;> simp

theorem isOk_iff (h : Outcome follow limit give vs g) (chained : Chained follow limit token vs) :
    (∃ found, g.whole = .ok found) ↔ complete follow vs = true := by
  simp [Gathered.whole_eq_ok, h.fault_eq_none_iff chained]

end Outcome

namespace Listing

theorem chained (h : Listing cloud ask follow item limit token s vs s') : Chained follow limit token vs := by
  induction h with
  | cut => exact ⟨by simp, .nil, Nat.le_refl _, fun more => (Nat.lt_irrefl _ more).elim⟩
  | refused asked => exact ⟨by simp, .singleton _, by simp, fun _ => ⟨_, rfl, rfl⟩⟩
  | last asked each ended => exact ⟨by simp, .singleton _, by simp, fun _ => ⟨_, rfl, ended⟩⟩
  | @more limit token s s₁ s₂ s' page rs next vs asked each goes rest ih =>
    refine ⟨by simp, ?_, by simpa using ih.within, fun fewer => ?_⟩
    · rw [List.isChain_cons]
      exact ⟨fun w first => ⟨next, goes, ih.first w first⟩, ih.next⟩
    · obtain ⟨w, last, ends⟩ := ih.stops (by simpa using fewer)
      exact ⟨w, by simp [List.getLast?_cons, last], ends⟩

end Listing

theorem exists_each
    (items : ∀ x s, ∃ r, item x s r (cloud.run (each x) s).2 ∧ (cloud.run (each x) s).1 = give r)
    (xs : List α) (s : Scene W) : ∃ rs, Each item xs s rs (cloud.run (Plan.forEach each xs) s).2 ∧
      (cloud.run (Plan.forEach each xs) s).1 = rs.flatMap give := by
  induction xs generalizing s with
  | nil => exact ⟨[], .nil s, rfl⟩
  | cons x xs ih =>
    obtain ⟨r, first, gives⟩ := items x s
    obtain ⟨rs, rest, more⟩ := ih (cloud.run (each x) s).2
    refine ⟨r :: rs, ?_, ?_⟩
    · rw [Plan.forEach, run_bind, run_bind]
      exact .cons first rest
    · rw [Plan.forEach, run_bind, run_bind, gives, more, List.flatMap_cons]
      rfl

theorem run_gather_succ (limit : Nat) (token : Option String) (s : Scene W) :
    cloud.run (gather ask follow each (limit + 1) token) s = match cloud.run (ask token) s with
      | (.error e, s') => ({ fault := some (.refused e) }, s')
      | (.ok page, s') =>
        let (found, s') := cloud.run (Plan.forEach each page.items) s'
        match follow token page.next with
        | none => ({ found }, s')
        | some next =>
          let (more, s') := cloud.run (gather ask follow each limit (some next)) s'
          ({ more with found := found ++ more.found }, s') := by
  rw [gather, run_bind]
  obtain ⟨answer, s'⟩ := cloud.run (ask token) s
  cases answer with
  | error e => rfl
  | ok page =>
    simp only [run_bind]
    cases follow token page.next with
    | none => rfl
    | some next =>
      simp only [run_bind]
      rfl

theorem exists_listing (ask : Option String → Plan (Except ServiceError (Page α))) (follow : Follow)
    (items : ∀ x s, ∃ r, item x s r (cloud.run (each x) s).2 ∧ (cloud.run (each x) s).1 = give r)
    (limit : Nat) (token : Option String) (s : Scene W) : ∃ vs,
      Listing cloud ask follow item limit token s vs (cloud.run (gather ask follow each limit token) s).2 ∧
        Outcome follow limit give vs (cloud.run (gather ask follow each limit token) s).1 := by
  induction limit generalizing token s with
  | zero => exact ⟨[], .cut token s, .cut⟩
  | succ limit ih =>
    rw [run_gather_succ]
    cases asked : cloud.run (ask token) s with
    | mk answer s₁ =>
      cases answer with
      | error e => exact ⟨_, .refused asked, .stopped rfl rfl⟩
      | ok page =>
        obtain ⟨rs, each_page, gives⟩ := exists_each items page.items s₁
        simp only [gives]
        cases follows : follow token page.next with
        | none => exact ⟨_, .last asked each_page follows, .last rfl follows⟩
        | some next =>
          obtain ⟨vs, rest, outcome⟩ := ih (some next) (cloud.run (Plan.forEach each page.items) s₁).2
          refine ⟨_, .more asked each_page follows rest, .more rfl ?_ outcome⟩
          change follow token page.next ≠ none
          rw [follows]
          exact Option.some_ne_none next

theorem exists_whole_listing (ask : Option String → Plan (Except ServiceError (Page α))) (follow : Follow)
    (items : ∀ x s, ∃ r, item x s r (cloud.run (each x) s).2 ∧ (cloud.run (each x) s).1 = give r)
    (limit : Nat) (token : Option String) (s : Scene W) : ∃ vs g s',
      Listing cloud ask follow item limit token s vs s' ∧ Outcome follow limit give vs g ∧
        cloud.run (pages ask follow each limit token) s = (g.whole, s') := by
  obtain ⟨vs, listing, outcome⟩ := exists_listing ask follow items limit token s
  exact ⟨vs, _, _, listing, outcome, run_bind _ _ _ _⟩

section folds

variable {P : Scene W → List γ → Scene W → Prop} (ofAsk : Option String → List γ) (ofItem : ρ → List γ)
  (refl : ∀ s, P s [] s) (trans : ∀ s s₁ s₂ xs ys, P s xs s₁ → P s₁ ys s₂ → P s (xs ++ ys) s₂)
  (items : ∀ x s r s', item x s r s' → P s (ofItem r) s')
include refl trans items

theorem Each.folds (h : Each item xs s rs s') : P s (rs.flatMap ofItem) s' := by
  induction h with
  | nil s => exact refl s
  | cons first rest ih =>
    rw [List.flatMap_cons]
    exact trans _ _ _ _ _ (items _ _ _ _ first) ih

theorem Listing.folds
    (asks : ∀ token s answer s', cloud.run (ask token) s = (answer, s') → P s (ofAsk token) s')
    (h : Listing cloud ask follow item limit token s vs s') :
    P s (vs.flatMap fun v => ofAsk v.token ++ v.items.flatMap ofItem) s' := by
  induction h with
  | cut token s => exact refl s
  | refused asked => simpa using asks _ _ _ _ asked
  | last asked each ended =>
    have page := trans _ _ _ _ _ (asks _ _ _ _ asked) (each.folds ofItem refl trans items)
    simpa using page
  | more asked each goes rest ih =>
    have page := trans _ _ _ _ _ (asks _ _ _ _ asked) (each.folds ofItem refl trans items)
    rw [List.flatMap_cons]
    exact trans _ _ _ _ _ page ih

end folds

-- What each item shows of itself is shown by the items of every page, in their order.
theorem Each.map_items (f : ρ → α) (own : ∀ x s r s', item x s r s' → f r = x) (h : Each item xs s rs s') :
    rs.map f = xs := by
  induction h with
  | nil => rfl
  | cons first rest ih => rw [List.map_cons, own _ _ _ _ first, ih]

theorem Each.of_mem (h : Each item xs s rs s') : ∀ r ∈ rs, ∃ x s₁ s₂, item x s₁ r s₂ := by
  induction h with
  | nil => exact List.forall_mem_nil _
  | cons first rest ih => exact List.forall_mem_cons.2 ⟨⟨_, _, _, first⟩, ih⟩

namespace Listing

theorem map_items (f : ρ → α) (own : ∀ x s r s', item x s r s' → f r = x)
    (h : Listing cloud ask follow item limit token s vs s') : ∀ v ∈ vs, v.items.map f = v.listed := by
  induction h with
  | cut => exact List.forall_mem_nil _
  | refused => exact List.forall_mem_singleton.2 rfl
  | last asked each => exact List.forall_mem_singleton.2 (each.map_items f own)
  | more asked each goes rest ih => exact List.forall_mem_cons.2 ⟨each.map_items f own, ih⟩

theorem of_mem (h : Listing cloud ask follow item limit token s vs s') :
    ∀ v ∈ vs, ∀ r ∈ v.items, ∃ x s₁ s₂, item x s₁ r s₂ := by
  induction h with
  | cut => exact List.forall_mem_nil _
  | refused => exact List.forall_mem_singleton.2 (List.forall_mem_nil _)
  | last asked each => exact List.forall_mem_singleton.2 each.of_mem
  | more asked each goes rest ih => exact List.forall_mem_cons.2 ⟨each.of_mem, ih⟩

theorem calls (request : Option String → Request) (made : ρ → List (Access × Request))
    (asks : ∀ token s answer s', cloud.run (ask token) s = (answer, s') →
      s'.calls.toList = s.calls.toList ++ sent a (request token))
    (items : ∀ x s r s', item x s r s' → s'.calls.toList = s.calls.toList ++ made r)
    (h : Listing cloud ask follow item limit token s vs s') : s'.calls.toList = s.calls.toList ++
      vs.flatMap fun v => sent a (request v.token) ++ v.items.flatMap made := by
  refine h.folds (P := fun s calls s' => s'.calls.toList = s.calls.toList ++ calls)
    (fun token => sent a (request token)) made ?_ ?_ items asks
  · exact fun s => (List.append_nil _).symm
  · intro s s₁ s₂ xs ys first rest
    rw [rest, first, List.append_assoc]

end Listing

end GameDay.Cloud
