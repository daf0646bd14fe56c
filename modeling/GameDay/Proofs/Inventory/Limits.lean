import GameDay.Inventory.Basic
import GameDay.Proofs.Cloud.Answers
import Mathlib.Data.List.Forall2

/-!
The limit of pages decides whether a search for targets ends, but not what it finds. With a higher limit, one
that ends is the same search.
-/

namespace GameDay

namespace Cloud

variable {α β σ : Type}

namespace Plan

/-- The second plan does what the first one does, unless the first can only be cut off. -/
inductive Prolongs (cut : α → Prop) : Plan α → Plan α → Prop
  | done (a : α) : Prolongs cut (.done a) (.done a)
  | perform {e : Effect} {next next' : e.Answer → Plan α}
      (later : ∀ answer, Prolongs cut (next answer) (next' answer)) :
      Prolongs cut (.perform e next) (.perform e next')
  | cut {p q : Plan α} (h : p.Yields cut) : Prolongs cut p q

namespace Prolongs

variable {cut : α → Prop} {last : β → Prop} {bad : β → Prop}

theorem refl (p : Plan α) : p.Prolongs cut p := by
  induction p with
  | done a => exact .done a
  | perform e next ih => exact .perform ih

theorem bind {p q : Plan α} {f g : α → Plan β} (h : p.Prolongs cut q) (hf : ∀ a, (f a).Prolongs last (g a))
    (hc : ∀ a, cut a → (f a).Yields last) : (p >>= f).Prolongs last (q >>= g) := by
  induction h with
  | done a => exact hf a
  | perform _ ih => exact .perform ih
  | cut h => exact .cut (h.bind hc)

theorem run {p q : Plan α} (h : p.Prolongs cut q) (handle : (e : Effect) → σ → e.Answer × σ) (s : σ) :
    cut (p.run handle s).1 ∨ q.run handle s = p.run handle s := by
  induction h generalizing s with
  | done a => exact .inr rfl
  | perform _ ih => exact ih _ _
  | cut h => exact .inl (h.run s)

section listings

variable {ask : Option String → Plan (Except ServiceError (Page α))} {follow : Follow}
  {each each' : α → Plan (List β)} (he : ∀ a, (each a).Prolongs (∃ b ∈ ·, bad b) (each' a))
include he

theorem forEach (as : List α) : (forEach each as).Prolongs (∃ b ∈ ·, bad b) (forEach each' as) := by
  induction as with
  | nil => exact .done []
  | cons a as ih =>
    refine (he a).bind (fun found => ih.bind (fun more => .done _) ?_) ?_
    · rintro more ⟨b, mem, h⟩
      exact .done ⟨b, List.mem_append_right _ mem, h⟩
    · rintro found ⟨b, mem, h⟩
      exact (Yields.trivial _).bind fun more _ => .done ⟨b, List.mem_append_left _ mem, h⟩

theorem gather {limit more : Nat} (le : limit ≤ more) (token : Option String) :
    (gather ask follow each limit token).Prolongs
      (fun g => g.fault = some .endless ∨ ∃ b ∈ g.found, bad b) (gather ask follow each' more token) := by
  induction limit generalizing more token with
  | zero => exact .cut (.done (.inl rfl))
  | succ limit ih =>
    obtain ⟨more, rfl⟩ := Nat.exists_eq_add_of_le' (Nat.lt_of_lt_of_le (Nat.succ_pos limit) le)
    have le : limit ≤ more := Nat.le_of_succ_le_succ le
    have same : (ask token).Prolongs (fun _ => False) (ask token) := refl _
    refine same.bind (fun answer => ?_) fun _ never => never.elim
    cases answer with
    | error e => exact .done _
    | ok page =>
      refine (forEach he page.items).bind (fun found => ?_) ?_
      · cases follow token page.next with
        | none => exact .done _
        | some next =>
          refine (ih le (some next)).bind (fun rest => .done _) ?_
          rintro rest (endless | ⟨b, mem, h⟩)
          · exact .done (.inl endless)
          · exact .done (.inr ⟨b, List.mem_append_right _ mem, h⟩)
      · rintro found ⟨b, mem, h⟩
        cases follow token page.next with
        | none => exact .done (.inr ⟨b, mem, h⟩)
        | some next =>
          exact (Yields.trivial _).bind fun rest _ => .done (.inr ⟨b, List.mem_append_left _ mem, h⟩)

end listings

theorem pages {ask : Option String → Plan (Except ServiceError (Page α))} {follow : Follow}
    {each : α → Plan (List β)} {limit more : Nat} (le : limit ≤ more) (token : Option String) :
    (pages ask follow each limit token).Prolongs (· = .error .endless) (pages ask follow each more token) := by
  have gathers : (Cloud.gather ask follow each limit token).Prolongs
      (fun g => g.fault = some .endless ∨ ∃ b ∈ g.found, False) (Cloud.gather ask follow each more token) :=
    gather (fun a => refl (each a)) le token
  refine gathers.bind (fun g => .done _) ?_
  rintro g (endless | ⟨_, _, never⟩)
  · exact .done (Gathered.whole_eq_error.2 endless)
  · exact never.elim

end Prolongs

end Plan

abbrev CutOff (r : Except Fault (List α)) : Prop := r = .error .endless

/-- Two workers for one access, of which the second does more only where the first can only be cut off. -/
structure Worker.Prolongs (w v : Worker α) : Prop where
  access : w.access = v.access
  plan : w.plan.Prolongs CutOff v.plan

namespace FanOut

variable {handle : (e : Effect) → σ → e.Answer × σ} {f f' g : FanOut α} {s s' : σ}
  {workers others : List (Worker α)}

def Doomed (f : FanOut α) : Prop :=
  (∃ e ∈ f.ended, CutOff e.2) ∨ ∃ w ∈ f.pool.running ++ f.pool.waiting, w.plan.Yields CutOff

theorem Doomed.steps (h : f.Doomed) (step : Steps handle f s f' s') : f'.Doomed := by
  cases step with
  | @ends _ waiting before after w ended result _ plan =>
    rcases h with ⟨e, mem, cut⟩ | ⟨v, mem, cut⟩
    · exact .inl ⟨e, List.mem_append_left _ mem, cut⟩
    · by_cases same : v = w
      · rw [same, plan] at cut
        cases cut with
        | done cut => exact .inl ⟨_, List.mem_append_right _ List.mem_cons_self, cut⟩
      · refine .inr ⟨v, ?_, cut⟩
        simp only [refill_perm]
        simpa [same] using mem
  | @goes _ waiting before after w ended e next s plan =>
    rcases h with ⟨e, mem, cut⟩ | ⟨v, mem, cut⟩
    · exact .inl ⟨e, mem, cut⟩
    · by_cases same : v = w
      · rw [same, plan] at cut
        cases cut with
        | perform later => exact .inr ⟨{ w with plan := next (handle e s).1 }, by simp, later _⟩
      · refine .inr ⟨v, ?_, cut⟩
        simp only [List.mem_append, List.mem_cons] at mem ⊢
        tauto

variable (handle)

theorem Doomed.turns (h : f.Doomed) (choices : List Nat) (s : σ) : (f.turns handle choices s).1.Doomed :=
  turns_keep (P := fun f _ => f.Doomed) Doomed.steps choices h

structure Prolongs (f g : FanOut α) : Prop where
  size : f.pool.size = g.pool.size
  waiting : List.Forall₂ Worker.Prolongs f.pool.waiting g.pool.waiting
  running : List.Forall₂ Worker.Prolongs f.pool.running g.pool.running
  ended : f.ended = g.ended

theorem Prolongs.refill {p q : Pool (Worker α) (Worker α)} {ended : List (Access × Except Fault (List α))}
    (size : p.size = q.size) (waiting : List.Forall₂ Worker.Prolongs p.waiting q.waiting)
    (running : List.Forall₂ Worker.Prolongs p.running q.running) :
    Prolongs ⟨p.refill id, ended⟩ ⟨q.refill id, ended⟩ := by
  have free : p.places - p.running.length = q.places - q.running.length := by
    rw [Pool.places, Pool.places, size, running.length_eq]
  refine ⟨size, ?_, ?_, rfl⟩
  · simp only [Pool.refill, free]
    exact List.forall₂_drop _ waiting
  · simp only [Pool.refill, free, List.map_id]
    exact List.rel_append running (List.forall₂_take _ waiting)

theorem Prolongs.turn (h : f.Prolongs g) (choice : Nat) (s : σ) : f.Doomed ∨
    ((f.turn handle choice s).1.Prolongs (g.turn handle choice s).1 ∧
      (g.turn handle choice s).2 = (f.turn handle choice s).2) := by
  obtain ⟨⟨size, waiting, running⟩, ended⟩ := f
  obtain ⟨⟨_, waiting', running'⟩, _⟩ := g
  obtain ⟨rfl, waits, runs, rfl⟩ := h
  have length : running.length = running'.length := runs.length_eq
  unfold FanOut.turn
  simp only [length]
  generalize choice % running'.length = i
  by_cases within : i < running.length
  · have within' : i < running'.length := length ▸ within
    obtain ⟨access, plan⟩ := runs.get within within'
    have others := List.rel_append (List.forall₂_take i runs) (List.forall₂_drop (i + 1) runs)
    simp only [List.getElem?_eq_getElem within, List.getElem?_eq_getElem within']
    simp only [List.get_eq_getElem] at access plan
    generalize v : running[i] = w at access plan ⊢
    generalize running'[i] = w' at access plan ⊢
    obtain ⟨_, p⟩ := w
    obtain ⟨_, q⟩ := w'
    obtain rfl := access
    cases plan with
    | done result =>
      refine .inr ⟨?_, rfl⟩
      simp only [retire, List.eraseIdx_eq_take_drop_succ]
      exact .refill rfl waits others
    | perform later =>
      refine .inr ⟨⟨rfl, waits, ?_, rfl⟩, rfl⟩
      simp only [List.set_eq_take_append_cons_drop, if_pos within, if_pos within']
      exact List.rel_append (List.forall₂_take i runs) (.cons ⟨rfl, later _⟩ (List.forall₂_drop (i + 1) runs))
    | cut yields =>
      refine .inl (.inr ⟨running[i], ?_, v ▸ yields⟩)
      exact List.mem_append_left _ (List.getElem_mem within)
  · have beyond : ¬ i < running'.length := length ▸ within
    simp only [List.getElem?_eq_none (Nat.not_lt.1 within), List.getElem?_eq_none (Nat.not_lt.1 beyond)]
    exact .inr ⟨⟨rfl, waits, runs, rfl⟩, trivial⟩

theorem Prolongs.turns (h : f.Prolongs g) (choices : List Nat) (s : σ) :
    (f.turns handle choices s).1.Doomed ∨
      ((f.turns handle choices s).1.Prolongs (g.turns handle choices s).1 ∧
        (g.turns handle choices s).2 = (f.turns handle choices s).2) := by
  induction choices generalizing f g s with
  | nil => exact .inr ⟨h, rfl⟩
  | cons choice choices ih =>
    rcases h.turn handle choice s with doomed | ⟨first, same⟩
    · exact .inl (doomed.turns handle (choice :: choices) s)
    · simp only [FanOut.turns, same]
      exact ih first _

theorem exists_cutOff_of_yields {w : Worker α} (mem : w ∈ workers) (yields : w.plan.Yields CutOff) (s : σ) :
    ∃ e ∈ (finish handle workers s).1, CutOff e.2 := by
  induction workers generalizing s with
  | nil => cases mem
  | cons v workers ih =>
    rcases List.mem_cons.1 mem with rfl | mem
    · exact ⟨_, List.mem_cons_self, yields.run s⟩
    · obtain ⟨e, later, cut⟩ := ih mem (v.plan.run handle s).2
      exact ⟨e, List.mem_cons_of_mem _ later, cut⟩

theorem finish_prolongs (h : List.Forall₂ Worker.Prolongs workers others) (s : σ) :
    (∃ e ∈ (finish handle workers s).1, CutOff e.2) ∨ finish handle others s = finish handle workers s := by
  induction h generalizing s with
  | nil => exact .inr rfl
  | @cons w v _ _ first _ ih =>
    rcases first.plan.run handle s with cut | same
    · exact .inl ⟨_, List.mem_cons_self, cut⟩
    · rcases ih (w.plan.run handle s).2 with ⟨e, later, cut⟩ | rest
      · exact .inl ⟨e, List.mem_cons_of_mem _ later, cut⟩
      · right
        simp only [finish, same, rest, first.access]

theorem complete_prolongs (h : List.Forall₂ Worker.Prolongs workers others) (size : Nat) (choices : List Nat)
    (s : σ) (uncut : (complete handle size workers choices s).1.uncut = true) :
    (complete handle size others choices s).1.ended = (complete handle size workers choices s).1.ended ∧
      (complete handle size others choices s).2 = (complete handle size workers choices s).2 := by
  have whole : ∀ e ∈ (complete handle size workers choices s).1.ended, ¬ CutOff e.2 := by
    intro e mem cut
    have ends := List.all_eq_true.1 uncut e mem
    rw [cut] at ends
    cases ends
  have begun : (start size workers).Prolongs (start size others) := .refill rfl h .nil
  simp only [complete] at whole ⊢
  rcases begun.turns handle choices s with doomed | ⟨going, same⟩
  · rcases doomed with ⟨e, mem, cut⟩ | ⟨w, mem, cut⟩
    · exact (whole e (List.mem_append_left _ mem) cut).elim
    · obtain ⟨e, later, cut⟩ := exists_cutOff_of_yields handle mem cut
        ((start size workers).turns handle choices s).2
      exact (whole e (List.mem_append_right _ later) cut).elim
  · rw [same]
    rcases finish_prolongs handle (List.rel_append going.running going.waiting)
      ((start size workers).turns handle choices s).2 with ⟨e, mem, cut⟩ | rest
    · exact (whole e (List.mem_append_right _ mem) cut).elim
    · rw [rest, going.ended]
      exact ⟨rfl, rfl⟩

end FanOut

end Cloud

namespace Inventory

open Cloud (CutOff Plan Scene Worker)

variable {W : Type} {cloud : Cloud W} {size : Nat} {accesses : List Access} {limit more : Nat}

theorem prolongs_clusterBrokers (le : limit ≤ more) (a : Access) (c : Cloud.Cluster) :
    (clusterBrokers limit a c).Prolongs (∃ b ∈ ·, b = none) (clusterBrokers more a c) := by
  unfold clusterBrokers
  split
  · split
    · refine (Plan.Prolongs.pages le none).bind (fun nodes => .refl _) ?_
      rintro _ rfl
      exact .done ⟨none, List.mem_singleton_self _, rfl⟩
    · exact .refl _
  · exact .refl _

theorem prolongs_ofKind (le : limit ≤ more) (kind : TargetKind) (a : Access) :
    (ofKind limit kind a).Prolongs CutOff (ofKind more kind a) := by
  cases kind with
  | lambda | nodeGroup | template => exact .pages le none
  | broker =>
    refine (Plan.Prolongs.gather (prolongs_clusterBrokers le a) le none).bind (fun g => .refl _) ?_
    rintro g cut
    refine .done ?_
    unfold settled
    split
    · rename_i known
      rcases cut with endless | ⟨_, mem, rfl⟩
      · exact Cloud.Gathered.whole_eq_error.2 endless
      · cases List.all_eq_true.1 known none mem
    · rfl

theorem perform_limit (cloud : Cloud W) (limit : Nat) :
    { cloud with pageLimit := limit }.perform = cloud.perform := by
  funext e s
  cases e <;> rfl

variable {kind : TargetKind} {kinds : List TargetKind} {s s' : Scene W} {targets : List Target}

theorem everywhere_of_le (done : everywhere cloud size accesses kind s = (some targets, s'))
    (le : cloud.pageLimit ≤ more) :
    everywhere { cloud with pageLimit := more } size accesses kind s = (some targets, s') := by
  rw [everywhere_eq_some] at done ⊢
  obtain ⟨uncut, found⟩ := done
  have workers : List.Forall₂ Worker.Prolongs (seekers cloud accesses kind)
      (seekers { cloud with pageLimit := more } accesses kind) :=
    List.forall₂_map_left_iff.2 <| List.forall₂_map_right_iff.2 <|
      List.forall₂_same.2 fun a _ => ⟨rfl, prolongs_ofKind le kind a⟩
  obtain ⟨ended, same⟩ := Cloud.FanOut.complete_prolongs cloud.perform workers size (cloud.turns s.world).1
    { s with world := (cloud.turns s.world).2 } uncut
  simp only [perform_limit, Cloud.FanOut.run, Cloud.FanOut.uncut, Cloud.FanOut.merged, ended, same]
  exact ⟨uncut, found⟩

theorem discover_of_le (done : discover cloud size accesses kinds s = (some targets, s'))
    (le : cloud.pageLimit ≤ more) :
    discover { cloud with pageLimit := more } size accesses kinds s = (some targets, s') := by
  induction kinds generalizing s targets with
  | nil => exact done
  | cons kind kinds ih =>
    rw [discover_cons_eq_some] at done ⊢
    obtain ⟨found, s₁, rest, first, later, rfl⟩ := done
    exact ⟨found, s₁, rest, everywhere_of_le first le, ih later, rfl⟩

end Inventory

end GameDay
