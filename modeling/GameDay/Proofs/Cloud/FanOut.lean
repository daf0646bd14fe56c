import GameDay.Proofs.Cloud.Answers
import Mathlib.Data.List.Forall2

namespace GameDay

namespace Pool

variable {ι ρ : Type} {p : Pool ι ρ}

structure Full (p : Pool ι ρ) : Prop where
  bounded : p.running.length ≤ p.places
  busy : p.running.length = p.places ∨ p.waiting = []

theorem one_le_places (p : Pool ι ρ) : 1 ≤ p.places := Nat.le_max_left 1 p.size

theorem full_refill (start : ι → ρ) (h : p.running.length ≤ p.places) : (p.refill start).Full := by
  have places : (p.refill start).places = p.places := rfl
  have running : (p.refill start).running.length =
      p.running.length + min (p.places - p.running.length) p.waiting.length := by
    simp [refill]
  have waiting : (p.refill start).waiting.length =
      p.waiting.length - (p.places - p.running.length) := by
    simp [refill]
  constructor
  · omega
  · by_cases enough : p.places - p.running.length ≤ p.waiting.length
    · left
      omega
    · right
      apply List.eq_nil_of_length_eq_zero
      omega

theorem Full.waiting_eq_nil (h : p.Full) (idle : p.running = []) : p.waiting = [] := by
  have places := p.one_le_places
  rcases h.busy with busy | none
  · rw [idle, List.length_nil] at busy
    omega
  · exact none

theorem split_of_next? {q : Pool ι ρ} {w : ι} (h : p.next? = some (w, q)) :
    p = ⟨q.size, w :: q.waiting, q.running⟩ ∧ p.running.length < p.places := by
  obtain ⟨size, waiting, running⟩ := p
  cases waiting with
  | nil => cases h
  | cons v waiting =>
    unfold next? at h
    simp only at h
    split at h
    · rename_i free
      cases h
      exact ⟨rfl, free⟩
    · cases h

theorem full_of_next? (h : p.next? = none) (bounded : p.running.length ≤ p.places) : p.Full := by
  refine ⟨bounded, ?_⟩
  unfold next? at h
  split at h
  · rename_i none
    exact .inr none
  · split at h
    · cases h
    · left
      omega

end Pool

theorem forall₂_middle {ι ρ : Type} {R : ι → ρ → Prop} {is : List ι} {before after : List ρ} {r : ρ}
    (h : List.Forall₂ R is (before ++ r :: after)) : ∃ first i last, is = first ++ i :: last ∧ R i r ∧
      List.Forall₂ R first before ∧ List.Forall₂ R last after := by
  have firsts := List.forall₂_take_append _ _ _ h
  obtain ⟨i, last, here, lasts, parts⟩ :=
    List.forall₂_cons_right_iff.1 (List.forall₂_drop_append _ _ _ h)
  refine ⟨_, i, last, ?_, here, firsts, lasts⟩
  rw [← parts, List.take_append_drop]

namespace Cloud

variable {α β σ : Type}

namespace Plan

/-- Where a plan can have come to, if all that it was told is as expected. -/
inductive Reaches (told : (e : Effect) → e.Answer → Prop) (p : Plan α) : Plan α → Prop
  | refl : Reaches told p p
  | step {e : Effect} {next : e.Answer → Plan α} {answer : e.Answer}
      (before : Reaches told p (.perform e next)) (here : told e answer) : Reaches told p (next answer)

variable {told more : (e : Effect) → e.Answer → Prop} {p q : Plan α}

theorem Reaches.mono (h : p.Reaches told q) (le : ∀ e answer, told e answer → more e answer) :
    p.Reaches more q := by
  induction h with
  | refl => exact .refl
  | step _ here ih => exact .step ih (le _ _ here)

theorem Reaches.yields {kind : α → Prop} (h : p.Reaches told q) (hp : p.Yields kind) :
    q.Yields kind := by
  induction h with
  | refl => exact hp
  | step _ _ ih =>
    cases ih with
    | perform later => exact later _

end Plan

namespace Worker

variable (told : (e : Effect) → e.Answer → Prop)

def Becomes (w v : Worker α) : Prop := v.access = w.access ∧ w.plan.Reaches told v.plan

def EndsWith (w : Worker α) (e : Access × Except Fault (List α)) : Prop :=
  e.1 = w.access ∧ w.plan.Reaches told (.done e.2)

end Worker

namespace FanOut

variable {handle : (e : Effect) → σ → e.Answer × σ} {told more : (e : Effect) → e.Answer → Prop}
  {size : Nat} {workers left going : List (Worker α)} {f f' : FanOut α} {s s' : σ}

def Told (handle : (e : Effect) → σ → e.Answer × σ) (e : Effect) (answer : e.Answer) : Prop :=
  ∃ s, answer = (handle e s).1

/-- Of the workers in line, some have left the pool and some are going, and the others wait. -/
structure Course (told : (e : Effect) → e.Answer → Prop) (size : Nat)
    (workers left going : List (Worker α)) (f : FanOut α) : Prop where
  sized : f.pool.size = size
  full : f.pool.Full
  began : ∃ began, workers = began ++ f.pool.waiting ∧ began.Perm (left ++ going)
  ended : List.Forall₂ (Worker.EndsWith told) left f.ended
  running : List.Forall₂ (Worker.Becomes told) going f.pool.running
  alone : size ≤ 1 → workers = left ++ going ++ f.pool.waiting

namespace Course

theorem mono (c : Course told size workers left going f)
    (le : ∀ e answer, told e answer → more e answer) : Course more size workers left going f :=
  { c with
    ended := c.ended.imp fun _ _ h => ⟨h.1, h.2.mono le⟩
    running := c.running.imp fun _ _ h => ⟨h.1, h.2.mono le⟩ }

theorem refill (pool : Pool (Worker α) (Worker α)) {ended : List (Access × Except Fault (List α))}
    (bounded : pool.running.length ≤ pool.places)
    (began : ∃ began, workers = began ++ pool.waiting ∧ began.Perm (left ++ going))
    (left_ended : List.Forall₂ (Worker.EndsWith told) left ended)
    (running : List.Forall₂ (Worker.Becomes told) going pool.running)
    (alone : pool.size ≤ 1 → workers = left ++ going ++ pool.waiting) :
    Course told pool.size workers left
      (going ++ pool.waiting.take (pool.places - pool.running.length)) ⟨pool.refill id, ended⟩ := by
  constructor
  · rfl
  · exact Pool.full_refill id bounded
  · obtain ⟨first, line, perm⟩ := began
    refine ⟨first ++ pool.waiting.take (pool.places - pool.running.length), ?_, ?_⟩
    · rw [line, List.append_assoc]
      exact congrArg (first ++ ·) (List.take_append_drop _ _).symm
    · rw [← List.append_assoc]
      exact perm.append_right _
  · exact left_ended
  · refine List.rel_append running ?_
    rw [List.map_id]
    exact List.forall₂_same.2 fun _ _ => ⟨rfl, .refl⟩
  · intro single
    change workers = left ++ (going ++ pool.waiting.take _) ++ pool.waiting.drop _
    rw [List.append_assoc, List.append_assoc going, List.take_append_drop, ← List.append_assoc]
    exact alone single

theorem start (told : (e : Effect) → e.Answer → Prop) (size : Nat) (workers : List (Worker α)) :
    ∃ going, Course told size workers [] going (FanOut.start size workers) :=
  ⟨_, refill { size, waiting := workers } (Nat.zero_le _) ⟨[], rfl, .nil⟩ .nil .nil fun _ => rfl⟩

theorem mem_workers (c : Course told size workers left going f) {w : Worker α} (mem : w ∈ going) :
    w ∈ workers := by
  obtain ⟨began, line, perm⟩ := c.began
  rw [line]
  exact List.mem_append_left _ (perm.mem_iff.2 (List.mem_append_right _ mem))

theorem ends {size' : Nat} {waiting before after : List (Worker α)} {w : Worker α}
    {ended : List (Access × Except Fault (List α))} {result : Except Fault (List α)}
    (c : Course told size workers left going ⟨⟨size', waiting, before ++ w :: after⟩, ended⟩)
    (plan : w.plan = .done result) : ∃ left' going', Course told size workers left' going'
      ⟨Pool.refill id ⟨size', waiting, before ++ after⟩, ended ++ [(w.access, result)]⟩ := by
  have same : size' = size := c.sized
  subst same
  obtain ⟨first, v, last, rfl, becomes, firsts, lasts⟩ := forall₂_middle c.running
  have bounded := c.full.bounded
  simp only [List.length_append, List.length_cons] at bounded
  refine ⟨left ++ [v], _, refill ⟨size', waiting, before ++ after⟩ ?_ ?_ ?_
    (List.rel_append firsts lasts) ?_⟩
  · simp only [List.length_append]
    exact Nat.le_trans (by omega) bounded
  · obtain ⟨began, line, perm⟩ := c.began
    refine ⟨began, line, perm.trans ?_⟩
    rw [List.append_assoc left]
    exact List.perm_middle.append_left left
  · refine List.rel_append c.ended (.cons ⟨becomes.1, ?_⟩ .nil)
    rw [← plan]
    exact becomes.2
  · -- with a single place, the one that ends was alone
    intro single
    have lengths := firsts.length_eq
    have lengths' := lasts.length_eq
    have places : Pool.places ⟨size', waiting, before ++ w :: after⟩ = 1 := Nat.max_eq_left single
    obtain rfl : first = [] := List.eq_nil_of_length_eq_zero (by omega)
    obtain rfl : last = [] := List.eq_nil_of_length_eq_zero (by omega)
    simpa using c.alone single

theorem goes {size' : Nat} {waiting before after : List (Worker α)} {w : Worker α}
    {ended : List (Access × Except Fault (List α))} {e : Effect} {next : e.Answer → Findings α}
    (c : Course told size workers left going ⟨⟨size', waiting, before ++ w :: after⟩, ended⟩)
    (plan : w.plan = .perform e next) {answer : e.Answer} (here : told e answer) :
    Course told size workers left going
      ⟨⟨size', waiting, before ++ { w with plan := next answer } :: after⟩, ended⟩ := by
  obtain ⟨first, v, last, rfl, becomes, firsts, lasts⟩ := forall₂_middle c.running
  refine { c with full := ?_, running := List.rel_append firsts (.cons ⟨becomes.1, ?_⟩ lasts) }
  · have full := c.full
    exact ⟨by simpa [Pool.places] using full.bounded, by simpa [Pool.places] using full.busy⟩
  · refine .step ?_ here
    rw [← plan]
    exact becomes.2

/-- Something is kept by workers that rely on it, and what they were told stays true. -/
def Keeps (handle : (e : Effect) → σ → e.Answer × σ) (told : σ → (e : Effect) → e.Answer → Prop)
    (I : σ → Prop) (w : Worker α) : Prop :=
  ∀ ⦃e : Effect⦄ ⦃next : e.Answer → Findings α⦄ ⦃s : σ⦄, w.plan.Reaches (told s) (.perform e next) →
    I s → I (handle e s).2 ∧ (∀ e' answer, told s e' answer → told (handle e s).2 e' answer) ∧
      told (handle e s).2 e (handle e s).1

theorem keeps_told (handle : (e : Effect) → σ → e.Answer × σ) (w : Worker α) :
    Keeps handle (fun _ => Told handle) (fun _ => True) w :=
  fun _ _ _ _ _ => ⟨trivial, fun _ _ h => h, _, rfl⟩

theorem steps {told : σ → (e : Effect) → e.Answer → Prop} {I : σ → Prop}
    (keeps : ∀ w ∈ workers, Keeps handle told I w) (c : Course (told s) size workers left going f)
    (hs : I s) (step : Steps handle f s f' s') :
    (∃ left' going', Course (told s') size workers left' going' f') ∧ I s' := by
  cases step with
  | ends plan => exact ⟨c.ends plan, hs⟩
  | goes plan =>
    obtain ⟨first, v, last, rfl, becomes, _, _⟩ := forall₂_middle c.running
    have reached := becomes.2
    rw [plan] at reached
    obtain ⟨kept, stays, here⟩ := keeps v (c.mem_workers (by simp)) reached hs
    exact ⟨⟨left, _, (c.mono stays).goes plan here⟩, kept⟩

theorem turns {told : σ → (e : Effect) → e.Answer → Prop} {I : σ → Prop}
    (keeps : ∀ w ∈ workers, Keeps handle told I w) (size : Nat) (choices : List Nat) (hs : I s) :
    (∃ left going, Course (told ((FanOut.start size workers).turns handle choices s).2) size workers
      left going ((FanOut.start size workers).turns handle choices s).1) ∧
    I ((FanOut.start size workers).turns handle choices s).2 := by
  refine turns_keep (P := fun f s => (∃ left going, Course (told s) size workers left going f) ∧ I s) ?_
    choices ⟨⟨[], start (told s) size workers⟩, hs⟩
  rintro f s f' s' ⟨⟨left, going, c⟩, hs⟩ step
  exact c.steps keeps hs step

theorem finished (c : Course told size workers left going f) (idle : f.pool.running = []) :
    left.Perm workers ∧ List.Forall₂ (Worker.EndsWith told) left f.ended ∧ (size ≤ 1 → left = workers) := by
  have none : f.pool.waiting = [] := c.full.waiting_eq_nil idle
  have running := c.running
  rw [idle] at running
  cases running
  obtain ⟨began, line, perm⟩ := c.began
  refine ⟨?_, c.ended, ?_⟩
  · rw [line, none, List.append_nil]
    simpa using perm.symm
  · intro single
    have order := c.alone single
    simpa [none] using order.symm

end Course

theorem turns_append (choices more : List Nat) (f : FanOut α) (s : σ) :
    f.turns handle (choices ++ more) s =
      (f.turns handle choices s).1.turns handle more (f.turns handle choices s).2 := by
  induction choices generalizing f s with
  | nil => rfl
  | cons choice choices ih => exact ih _ _

theorem turns_first (handle : (e : Effect) → σ → e.Answer × σ) (w : Worker α) (size : Nat)
    (waiting rest : List (Worker α))
    (ended : List (Access × Except Fault (List α))) (s : σ) : ∃ n,
      FanOut.turns handle (List.replicate n 0) ⟨⟨size, waiting, w :: rest⟩, ended⟩ s =
        (⟨Pool.refill id ⟨size, waiting, rest⟩, ended ++ [(w.access, (w.plan.run handle s).1)]⟩,
          (w.plan.run handle s).2) := by
  obtain ⟨access, plan⟩ := w
  induction plan generalizing s with
  | done result => exact ⟨1, by simp [FanOut.turns, FanOut.turn, retire, Plan.run]⟩
  | perform e next ih =>
    obtain ⟨n, later⟩ := ih (handle e s).1 (handle e s).2
    refine ⟨n + 1, ?_⟩
    rw [List.replicate_succ]
    simpa [FanOut.turns, FanOut.turn, Plan.run] using later

theorem turns_finish (handle : (e : Effect) → σ → e.Answer × σ) (f : FanOut α) (full : f.pool.Full)
    (s : σ) : ∃ n f',
    f.turns handle (List.replicate n 0) s =
      (f', (finish handle (f.pool.running ++ f.pool.waiting) s).2) ∧
    f'.pool.running = [] ∧
    f'.ended = f.ended ++ (finish handle (f.pool.running ++ f.pool.waiting) s).1 := by
  -- by induction on the workers that are left: the first one ends, and its place is filled
  generalize line : f.pool.running ++ f.pool.waiting = workers
  induction workers generalizing f s with
  | nil => exact ⟨0, f, rfl, (List.append_eq_nil_iff.1 line).1, (List.append_nil _).symm⟩
  | cons w workers ih =>
    obtain ⟨⟨size, waiting, running⟩, ended⟩ := f
    cases running with
    | nil =>
      have none := full.waiting_eq_nil rfl
      simp_all
    | cons v rest =>
      obtain ⟨rfl, others⟩ := List.cons_eq_cons.1 line
      obtain ⟨n, first⟩ := turns_first handle v size waiting rest ended s
      have fewer : rest.length ≤ Pool.places ⟨size, waiting, rest⟩ :=
        Nat.le_trans (Nat.le_succ _) full.bounded
      obtain ⟨m, f', later, idle, all⟩ := ih ⟨Pool.refill id ⟨size, waiting, rest⟩, _⟩
        (Pool.full_refill id fewer) (v.plan.run handle s).2 (by rw [refill_perm]; exact others)
      refine ⟨n + m, f', ?_, idle, ?_⟩
      · rw [← List.replicate_append_replicate, turns_append, first]
        exact later
      · rw [all, List.append_assoc]
        rfl

theorem run_eq_turns (handle : (e : Effect) → σ → e.Answer × σ) (size : Nat)
    (workers : List (Worker α)) (choices : List Nat) (s : σ) : ∃ n,
      let all := (start size workers).turns handle (choices ++ List.replicate n 0) s
      all.1.pool.running = [] ∧ all.1.ended = endings handle size workers choices s ∧
        run handle size workers choices s = (all.1.merged, all.2) := by
  obtain ⟨⟨_, _, c⟩, _⟩ := Course.turns (s := s)
    (fun w (_ : w ∈ workers) => Course.keeps_told handle w) size choices trivial
  obtain ⟨n, f, turns, idle, ended⟩ := turns_finish handle _ c.full
    ((start size workers).turns handle choices s).2
  refine ⟨n, ?_⟩
  rw [turns_append, turns]
  refine ⟨idle, ended, ?_⟩
  unfold run complete merged
  rw [ended]

theorem exists_order {told : σ → (e : Effect) → e.Answer → Prop} {I : σ → Prop}
    (keeps : ∀ w ∈ workers, Course.Keeps handle told I w) (size : Nat) (choices : List Nat) (hs : I s) :
    (∃ order : List (Worker α), order.Perm workers ∧ (size ≤ 1 → order = workers) ∧
      List.Forall₂ (Worker.EndsWith (told (run handle size workers choices s).2)) order
        (endings handle size workers choices s)) ∧
    I (run handle size workers choices s).2 := by
  obtain ⟨n, idle, ended, whole⟩ := run_eq_turns handle size workers choices s
  obtain ⟨⟨left, going, c⟩, kept⟩ := Course.turns keeps size (choices ++ List.replicate n 0) hs
  obtain ⟨perm, each, single⟩ := c.finished idle
  rw [ended] at each
  rw [whole]
  exact ⟨⟨left, perm, single, each⟩, kept⟩

theorem run_eq_of_fixed {order : List (Worker α)} {choices : List Nat}
    {result : Worker α → Except Fault (List α)}
    (each : List.Forall₂ (Worker.EndsWith told) order (endings handle size workers choices s))
    (fixed : ∀ w ∈ order, w.plan.Yields (· = result w)) :
    (run handle size workers choices s).1 = order.flatMap fun w => foundBy (result w) := by
  rw [run_eq_endings]
  generalize endings handle size workers choices s = all at each
  induction each with
  | nil => rfl
  | cons here _ ih =>
    rw [List.forall_mem_cons] at fixed
    rw [List.flatMap_cons, List.flatMap_cons, ih fixed.2]
    cases here.2.yields fixed.1 with
    | done same => rw [same]

end FanOut

end Cloud

end GameDay
