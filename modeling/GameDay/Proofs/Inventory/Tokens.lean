import GameDay.Inventory.Functions
import GameDay.Inventory.NodeGroups
import GameDay.Proofs.Inventory.Clusters
import GameDay.Proofs.Inventory.Forecasts

namespace GameDay

namespace Cloud

variable {W α β ρ : Type} {cloud : Cloud W} {ask : Option String → Plan (Except ServiceError (Page α))}
  {follow : Follow} {item : α → Scene W → ρ → Scene W → Prop} {each : α → Plan (List β)}
  {limit : Nat} {token : Option String} {s s' : Scene W} {vs : List (Visit α ρ)}

def Visit.stuck (v : Visit α ρ) : Bool := (v.next? .always).any fun t => t = "" ∨ v.token = some t

theorem Visit.next?_unlessStuck (v : Visit α ρ) :
    v.next? .unlessStuck = if v.stuck then none else v.next? .always := by
  obtain ⟨token, e | page, items⟩ := v
  · rfl
  · cases next : page.next with
    | none => simp [Visit.stuck, Visit.next?, Follow.always, Follow.unlessStuck, next]
    | some t =>
      have used : some t = token ↔ token = some t := eq_comm
      simp [Visit.stuck, Visit.next?, Follow.always, Follow.unlessStuck, next, used]

theorem Chained.leads (h : Chained follow limit token vs) : ∀ v ∈ vs.dropLast, v.next? follow ≠ none := by
  have chain := h.next
  clear h
  induction chain with
  | nil | singleton => simp
  | cons_cons leads _ ih =>
    rw [List.dropLast_cons_cons, List.forall_mem_cons]
    obtain ⟨t, next, _⟩ := leads
    exact ⟨by simp [next], ih⟩

theorem Chained.followed (h : Chained follow limit token vs) {before after : List (Visit α ρ)} {v : Visit α ρ}
    {t : String} (parts : vs = before ++ v :: after) (leads : v.next? follow = some t) :
    (after = [] ∧ vs.length = limit) ∨ ∃ w rest, after = w :: rest ∧ w.token = some t := by
  cases after with
  | nil =>
    left
    refine ⟨rfl, ?_⟩
    by_contra early
    have within := h.within
    obtain ⟨w, last, ends⟩ := h.stops (by omega)
    have same : v = w := by simpa [parts] using last
    rw [same, ends] at leads
    cases leads
  | cons w rest =>
    right
    have chain := h.next
    rw [parts, List.isChain_append] at chain
    obtain ⟨t', next, asked⟩ := (List.isChain_cons_cons.1 chain.2.1).1
    rw [leads] at next
    cases next
    exact ⟨w, rest, rfl, asked⟩

theorem unstuck_of_unlessStuck (h : Listing cloud ask .unlessStuck item limit token s vs s') :
    ∀ v ∈ vs.dropLast, v.stuck = false := by
  intro v mem
  have leads := h.chained.leads v mem
  rw [Visit.next?_unlessStuck] at leads
  cases stuck : v.stuck with
  | false => rfl
  | true => simp [stuck] at leads

theorem Listing.unlessStuck_iff (h : Listing cloud ask .always item limit token s vs s') :
    Listing cloud ask .unlessStuck item limit token s vs s' ↔ ∀ v ∈ vs.dropLast, v.stuck = false := by
  refine ⟨unstuck_of_unlessStuck, fun unstuck => ?_⟩
  induction h with
  | cut token s => exact .cut token s
  | refused asked => exact .refused asked
  | @last limit token s s₁ s' page rs asked each ended =>
    refine .last asked each ?_
    have none : page.next = none := ended
    simp [Follow.unlessStuck, none]
  | @more limit token s s₁ s₂ s' page rs next vs asked each goes rest ih =>
    have follows := Visit.next?_unlessStuck (⟨token, .ok page, rs⟩ : Visit _ _)
    cases stuck : Visit.stuck (⟨token, .ok page, rs⟩ : Visit _ _) with
    | false =>
      rw [stuck] at follows
      refine .more asked each (follows.trans goes) (ih fun v mem => unstuck v ?_)
      cases vs with
      | nil => cases mem
      | cons w vs => exact List.mem_cons_of_mem _ mem
    | true =>
      -- then it is the last that the limit allows
      cases vs with
      | nil =>
        cases rest
        rw [stuck] at follows
        exact .last asked each follows
      | cons w vs =>
        have first := unstuck _ List.mem_cons_self
        rw [stuck] at first
        cases first

structure Unguarded (cloud : Cloud W) (ask : Option String → Plan (Except ServiceError (Page α)))
    (item : α → Scene W → ρ → Scene W → Prop) (limit : Nat) (s : Scene W) (vs : List (Visit α ρ))
    (r : Except Fault (List β) × Scene W) : Prop where
  listing : Listing cloud ask .always item limit none s vs r.2
  followed : ∀ before v after t, vs = before ++ v :: after → v.next? .always = some t →
    (after = [] ∧ vs.length = limit) ∨ ∃ w rest, after = w :: rest ∧ w.token = some t
  endless : r.1 = .error .endless ↔ vs.length = limit ∧ ∀ v ∈ vs, v.next? .always ≠ none
  unlessStuck : Listing cloud ask .unlessStuck item limit none s vs r.2 ↔ ∀ v ∈ vs.dropLast, v.stuck = false

theorem Listing.unguarded {give : ρ → List β} {g : Gathered β}
    (h : Listing cloud ask .always item limit none s vs s') (outcome : Outcome .always limit give vs g) :
    Unguarded cloud ask item limit s vs (g.whole, s') :=
  ⟨h, fun _ _ _ _ => h.chained.followed, Gathered.whole_eq_error.trans outcome.endless, h.unlessStuck_iff⟩

theorem exists_unguarded (give : ρ → List β)
    (items : ∀ x s, ∃ r, item x s r (cloud.run (each x) s).2 ∧ (cloud.run (each x) s).1 = give r)
    (limit : Nat) (s : Scene W) :
    ∃ vs, Unguarded cloud ask item limit s vs (cloud.run (pages ask .always each limit none) s) := by
  obtain ⟨vs, g, s', listing, outcome, ran⟩ := exists_whole_listing ask .always items limit none s
  rw [ran]
  exact ⟨vs, listing.unguarded outcome⟩

theorem exists_guarded (give : ρ → List β)
    (items : ∀ x s, ∃ r, item x s r (cloud.run (each x) s).2 ∧ (cloud.run (each x) s).1 = give r)
    (limit : Nat) (s : Scene W) : ∃ vs, Listing cloud ask .unlessStuck item limit none s vs
        (cloud.run (pages ask .unlessStuck each limit none) s).2 ∧ ∀ v ∈ vs.dropLast, v.stuck = false := by
  obtain ⟨vs, _, _, listing, _, ran⟩ := exists_whole_listing ask .unlessStuck items limit none s
  rw [ran]
  exact ⟨vs, listing, unstuck_of_unlessStuck listing⟩

section

variable (goes : ∀ token s, ∃ page next s', cloud.run (ask token) s = (.ok page, s') ∧ page.next = some next)
  (limit : Nat) (token : Option String) (s : Scene W)
include goes

theorem cut_of_tokens : (cloud.run (gather ask .always each limit token) s).1.fault = some .endless := by
  induction limit generalizing token s with
  | zero => rfl
  | succ limit ih =>
    obtain ⟨page, next, s', asked, follows⟩ := goes token s
    rw [run_gather_succ, asked]
    simp only [Follow.always, follows, ih]

theorem endless_of_tokens : (cloud.run (pages ask .always each limit token) s).1 = .error .endless := by
  rw [pages, run, Plan.run_bind]
  exact Gathered.whole_eq_error.2 (cut_of_tokens goes limit token s)

end

end Cloud

namespace Inventory

open Cloud (Gathered Listing Scene Taken Unguarded)

/-- Three of the listings end with a page that is refused or comes without a token, and with no other; the other
two end with a page that is stuck as well. -/
theorem listings_end_without_token {W : Type} (cloud : Cloud W) (a : Access) (limit : Nat) (s : Scene W) :
    (∃ vs g s', Unguarded cloud (fun token => .send a (.listClusters token)) (Visiting cloud a limit) limit s vs
      (g.whole, s') ∧ cloud.run (brokers limit a) s = (settled g, s')) ∧
    (∀ arn, ∃ vs, Unguarded cloud (fun token => .send a (.listNodes arn token)) Taken limit s vs
      (cloud.run (clusterNodes limit a arn) s)) ∧
    (∃ vs, Unguarded cloud (fun token => .send a (.listTemplates token)) (Estimating cloud a) limit s vs
      (cloud.run (templates limit a) s)) ∧
    (∃ vs, Listing cloud (fun token => .send a (.listFunctions token)) .unlessStuck Taken limit none s vs
      (cloud.run (functions limit a) s).2 ∧ ∀ v ∈ vs.dropLast, v.stuck = false) ∧
    ∃ vs, Listing cloud (fun token => .send a (.describeReplicationGroups token none)) .unlessStuck Taken limit
      none s vs (cloud.run (nodeGroups limit a) s).2 ∧ ∀ v ∈ vs.dropLast, v.stuck = false := by
  refine ⟨?_, fun arn => ?_, ?_, ?_, ?_⟩
  · obtain ⟨vs, listing, outcome⟩ := Cloud.exists_listing (fun token => .send a (.listClusters token)) .always
      (exists_visit cloud a limit) limit none s
    exact ⟨vs, _, _, listing.unguarded outcome, Cloud.run_bind cloud _ _ s⟩
  · exact Cloud.exists_unguarded (fun n => [n]) (fun n _ => ⟨n, ⟨rfl, rfl⟩, rfl⟩) limit s
  · exact Cloud.exists_unguarded (fun f => [f.target a]) (exists_forecast cloud a) limit s
  · exact Cloud.exists_guarded (fun f => [a.stamp (functionTarget f)]) (fun f _ => ⟨f, ⟨rfl, rfl⟩, rfl⟩)
      limit s
  · exact Cloud.exists_guarded (fun g => (nodeGroupTargets g).map a.stamp)
      (fun g _ => ⟨g, ⟨rfl, rfl⟩, rfl⟩) limit s

theorem settled_of_endless {α : Type} {g : Gathered (Option α)} (endless : g.fault = some .endless) :
    settled g = .error .endless := by
  unfold settled
  split
  · exact Gathered.whole_eq_error.2 endless
  · rfl

/-- A service whose token never changes is never left, but for functions and node groups. -/
theorem stuck_never_left :
    let stuck := offering fun _ => some "T"
    let s : Scene Command.Offline := { world := {} }
    (∀ limit, (stuck.run (brokers limit office) s).1 = .error .endless) ∧
    (∀ limit, (stuck.run (clusterNodes limit office "arn") s).1 = .error .endless) ∧
    (∀ limit, (stuck.run (templates limit office) s).1 = .error .endless) ∧
    (stuck.run (functions 2 office) s).1 = .ok [] ∧ (stuck.run (nodeGroups 2 office) s).1 = .ok [] := by
  intro stuck s
  refine ⟨fun limit => ?_, fun limit => ?_, fun limit => ?_, ?_, ?_⟩
  · rw [brokers, Cloud.run, Cloud.Plan.run_bind]
    refine settled_of_endless (Cloud.cut_of_tokens (fun token s => ?_) limit none s)
    exact ⟨_, "T", _, rfl, rfl⟩
  · exact Cloud.endless_of_tokens (fun token s => ⟨_, "T", _, rfl, rfl⟩) limit none s
  · exact Cloud.endless_of_tokens (fun token s => ⟨_, "T", _, rfl, rfl⟩) limit none s
  · rfl
  · rfl

end Inventory

end GameDay
