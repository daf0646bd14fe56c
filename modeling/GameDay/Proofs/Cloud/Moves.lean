import GameDay.Proofs.Cloud.FanOut
import Mathlib.Tactic.ByContra

/-!
The workers of a pool, move by move. Each begins, deals with the services and ends, in a place of the pool;
what it does between is its own plan, carried out among the moves of the others.
-/

namespace GameDay

theorem Pool.refill_keeps {ι ρ : Type} {P : Pool ι ρ → Prop} (start : ι → ρ)
    (step : ∀ {size : Nat} {w : ι} {waiting : List ι} {running : List ρ},
      running.length < Pool.places ⟨size, w :: waiting, running⟩ → P ⟨size, w :: waiting, running⟩ →
      P ⟨size, waiting, running ++ [start w]⟩) (p : Pool ι ρ) (h : P p) : P (p.refill start) := by
  obtain ⟨size, waiting, running⟩ := p
  -- the places that are left are taken one after the other
  have taken (n : Nat) (fits : running.length + n ≤ max (max 1 size) running.length) :
      P ⟨size, waiting.drop n, running ++ (waiting.take n).map start⟩ := by
    induction n generalizing waiting running with
    | zero => simpa using h
    | succ n ih =>
      cases waiting with
      | nil => simpa using h
      | cons w waiting =>
        have more := step (by simp only [Pool.places]; omega) h
        have rest := ih _ _ more (by simp only [List.length_append, List.length_singleton]; omega)
        simpa using rest
  apply taken
  simp only [Pool.places]
  omega

namespace Cloud

variable {α β σ : Type}

structure Dealing where
  effect : Effect
  answer : effect.Answer

namespace Plan

inductive Comes : Plan α → List Dealing → Plan α → Prop
  | nil (p : Plan α) : Comes p [] p
  | cons {e : Effect} {next : e.Answer → Plan α} {answer : e.Answer} {ds : List Dealing} {q : Plan α}
      (rest : Comes (next answer) ds q) : Comes (.perform e next) (⟨e, answer⟩ :: ds) q

namespace Comes

variable {p q : Plan α} {ds : List Dealing}

theorem concat {e : Effect} {next : e.Answer → Plan α} (h : p.Comes ds (.perform e next))
    (answer : e.Answer) : p.Comes (ds ++ [⟨e, answer⟩]) (next answer) := by
  generalize last : Plan.perform e next = q at h
  induction h with
  | nil =>
    subst last
    exact .cons (.nil _)
  | cons _ ih => exact .cons (ih last)

theorem of_done {a : α} (h : (done a).Comes ds q) : ds = [] ∧ q = done a := by
  cases h
  exact ⟨rfl, rfl⟩

theorem of_effect {e : Effect} {answer : e.Answer} (h : (effect e).Comes ds (.done answer)) :
    ds = [⟨e, answer⟩] := by
  cases h with
  | cons rest =>
    obtain ⟨rfl, same⟩ := rest.of_done
    cases same
    rfl

theorem of_bind {p : Plan α} {f : α → Plan β} {b : β} (h : (p >>= f).Comes ds (.done b)) :
    ∃ a first rest, ds = first ++ rest ∧ p.Comes first (.done a) ∧ (f a).Comes rest (.done b) := by
  induction p generalizing ds with
  | done a => exact ⟨a, [], ds, rfl, .nil _, h⟩
  | perform e next ih =>
    cases h with
    | cons rest =>
      obtain ⟨a, first, last, rfl, here, later⟩ := ih _ rest
      exact ⟨a, _, last, rfl, .cons here, later⟩

theorem within {allowed : Effect → Prop} (h : p.Comes ds q) (hp : p.Within allowed) :
    ∀ d ∈ ds, allowed d.effect := by
  induction h with
  | nil => exact List.forall_mem_nil _
  | cons _ ih =>
    cases hp with
    | perform here later => exact List.forall_mem_cons.2 ⟨here, ih (later _)⟩

theorem yields {kind : α → Prop} {a : α} (h : p.Comes ds (.done a)) (hp : p.Yields kind) : kind a := by
  generalize last : Plan.done a = q at h
  induction h with
  | nil =>
    subst last
    cases hp with
    | done here => exact here
  | cons _ ih =>
    cases hp with
    | perform later => exact ih (later _) last

end Comes

end Plan

inductive Replays (handle : (e : Effect) → σ → e.Answer × σ) (s : σ) : List Dealing → σ → Prop
  | nil : Replays handle s [] s
  | concat {ds : List Dealing} {s' : σ} (before : Replays handle s ds s') (e : Effect) :
      Replays handle s (ds ++ [⟨e, (handle e s').1⟩]) (handle e s').2

inductive Move
  | begins (place : Nat)
  | deals (place : Nat) (dealing : Dealing)
  | ends (place : Nat)

namespace Move

def place : Move → Nat
  | begins i | deals i _ | ends i => i

def begun? : Move → Option Nat
  | begins i => some i
  | deals .. | ends _ => none

def dealing? : Move → Option Dealing
  | deals _ d => some d
  | begins _ | ends _ => none

def ended? : Move → Option Nat
  | ends i => some i
  | begins _ | deals .. => none

end Move

def own (i : Nat) (log : List Move) : List Move := log.filter (·.place = i)

def InPlaces (n : Nat) (log : List Move) : Prop :=
  ∀ part, part <+: log → (part.filterMap Move.begun?).length ≤ (part.filterMap Move.ended?).length + n

section moves

variable {n i : Nat} {log more : List Move} {m : Move}

theorem own_concat_of_ne (other : i ≠ m.place) : own i (log ++ [m]) = own i log := by
  rw [own, List.filter_append, List.filter_cons_of_neg (by simpa using other.symm), List.filter_nil,
    List.append_nil]
  rfl

theorem own_concat_self (same : m.place = i) : own i (log ++ [m]) = own i log ++ [m] := by
  rw [own, List.filter_append, List.filter_cons_of_pos (by simpa using same), List.filter_nil]
  rfl

theorem InPlaces.nil (n : Nat) : InPlaces n [] := by
  intro part before
  rw [List.prefix_nil.1 before]
  exact Nat.zero_le _

theorem InPlaces.append (h : InPlaces n log) (h' : InPlaces n more)
    (ended : (log.filterMap Move.begun?).length ≤ (log.filterMap Move.ended?).length) :
    InPlaces n (log ++ more) := by
  rintro part ⟨rest, parts⟩
  rcases List.append_eq_append_iff.1 parts with ⟨inner, rfl, _⟩ | ⟨inner, rfl, rfl⟩
  · exact h part (List.prefix_append _ _)
  · have later := h' inner (List.prefix_append _ _)
    simp only [List.filterMap_append, List.length_append]
    omega

theorem InPlaces.concat (h : InPlaces n log)
    (fits : ((log ++ [m]).filterMap Move.begun?).length ≤ ((log ++ [m]).filterMap Move.ended?).length + n) :
    InPlaces n (log ++ [m]) := by
  intro part before
  rcases List.prefix_concat_iff.1 before with rfl | before
  · exact fits
  · exact h part before

end moves

namespace FanOut

variable {handle : (e : Effect) → σ → e.Answer × σ} {size i : Nat} {workers waiting before after : List (Worker α)}
  {w : Worker α} {s₀ s : σ} {log : List Move} {left going : List Nat} {m : Move}
  {done : List (Access × Except Fault (List α))}

/-- The worker at a place in the line has begun, and has come by its own moves to what it is now. -/
def UnderWay (workers : List (Worker α)) (log : List Move) (i : Nat) (v : Worker α) : Prop :=
  ∃ w ds, workers[i]? = some w ∧ v.access = w.access ∧ w.plan.Comes ds v.plan ∧
    own i log = .begins i :: ds.map (.deals i)

def Finished (workers : List (Worker α)) (log : List Move) (i : Nat) (e : Access × Except Fault (List α)) :
    Prop :=
  ∃ w ds, workers[i]? = some w ∧ e.1 = w.access ∧ w.plan.Comes ds (.done e.2) ∧
    own i log = .begins i :: ds.map (.deals i) ++ [.ends i]

/-- Of the workers in line, those at some places have ended, those at others are running, and the rest wait;
the moves tell how it came to that. -/
structure Logged (handle : (e : Effect) → σ → e.Answer × σ) (workers : List (Worker α)) (s₀ : σ)
    (f : FanOut α) (s : σ) (log : List Move) (left going : List Nat) : Prop where
  line : f.pool.waiting = workers.drop (left.length + going.length)
  within : left.length + going.length ≤ workers.length
  places : (left ++ going).Perm (List.range (left.length + going.length))
  ended : List.Forall₂ (Finished workers log) left f.ended
  running : List.Forall₂ (UnderWay workers log) going f.pool.running
  unbegun : ∀ i, left.length + going.length ≤ i → own i log = []
  began : (log.filterMap Move.begun?).length = left.length + going.length
  closed : log.filterMap Move.ended? = left
  bounded : InPlaces f.pool.places log
  replays : Replays handle s₀ (log.filterMap Move.dealing?) s

theorem underWay_concat {vs : List (Worker α)} (h : List.Forall₂ (UnderWay workers log) going vs)
    (others : ∀ i ∈ going, i ≠ m.place) : List.Forall₂ (UnderWay workers (log ++ [m])) going vs := by
  refine ((List.forall₂_and_left _ _).2 ⟨others, h⟩).imp ?_
  rintro i v ⟨other, w, ds, here, access, comes, moves⟩
  exact ⟨w, ds, here, access, comes, (own_concat_of_ne other).trans moves⟩

theorem finished_concat (h : List.Forall₂ (Finished workers log) left done)
    (others : ∀ i ∈ left, i ≠ m.place) : List.Forall₂ (Finished workers (log ++ [m])) left done := by
  refine ((List.forall₂_and_left _ _).2 ⟨others, h⟩).imp ?_
  rintro i e ⟨other, w, ds, here, access, comes, moves⟩
  exact ⟨w, ds, here, access, comes, (own_concat_of_ne other).trans moves⟩

namespace Logged

variable {f f' : FanOut α} {s' : σ} {first last : List Nat} {j : Nat}

theorem lt_of_mem (h : Logged handle workers s₀ f s log left going) (mem : i ∈ left ++ going) :
    i < left.length + going.length :=
  List.mem_range.1 (h.places.mem_iff.1 mem)

theorem others (h : Logged handle workers s₀ f s log left (first ++ m.place :: last)) :
    (∀ i ∈ left, i ≠ m.place) ∧ (∀ i ∈ first, i ≠ m.place) ∧ ∀ i ∈ last, i ≠ m.place := by
  have distinct : (left ++ (first ++ m.place :: last)).Nodup := h.places.nodup_iff.2 List.nodup_range
  have out : (left ++ (first ++ m.place :: last)).Perm (m.place :: (left ++ (first ++ last))) :=
    (List.perm_middle.append_left left).trans List.perm_middle
  have never : ∀ i ∈ left ++ (first ++ last), i ≠ m.place := by
    intro i mem same
    exact (List.nodup_cons.1 (out.nodup_iff.1 distinct)).1 (same ▸ mem)
  rwa [List.forall_mem_append, List.forall_mem_append] at never

theorem unbegun_concat (h : Logged handle workers s₀ f s log left going) (known : m.place ∈ left ++ going) :
    ∀ i, left.length + going.length ≤ i → own i (log ++ [m]) = [] := by
  intro i late
  have other : i ≠ m.place := Nat.ne_of_gt (Nat.lt_of_lt_of_le (h.lt_of_mem known) late)
  rw [own_concat_of_ne other, h.unbegun i late]

theorem begins {running : List (Worker α)}
    (h : Logged handle workers s₀ ⟨⟨size, w :: waiting, running⟩, done⟩ s log left going)
    (free : running.length < Pool.places ⟨size, w :: waiting, running⟩) :
    ∃ log' going', Logged handle workers s₀ ⟨⟨size, waiting, running ++ [w]⟩, done⟩ s log' left going' := by
  -- as many have begun as come before it in the line
  obtain ⟨next, total⟩ : ∃ next, left.length + going.length = next := ⟨_, rfl⟩
  have line := h.line
  have unbegun := h.unbegun
  have began := h.began
  have lengths : going.length = running.length := h.running.length_eq
  rw [total] at line unbegun began
  have total' : left.length + (going ++ [next]).length = next + 1 := by
    rw [List.length_append, List.length_singleton]
    omega
  have others : ∀ i ∈ left ++ going, i ≠ (Move.begins next).place := by
    intro i mem
    exact Nat.ne_of_lt (total ▸ h.lt_of_mem mem)
  have here : workers[next]? = some w := by
    rw [← List.head?_drop, ← line]
    rfl
  refine ⟨log ++ [.begins next], going ++ [next], ?_, ?_, ?_, ?_, ?_, ?_, ?_, ?_, ?_, ?_⟩
  · rw [total', ← List.drop_drop, ← line]
    rfl
  · rw [total']
    exact (List.getElem?_eq_some_iff.1 here).1
  · rw [total', List.range_succ, ← List.append_assoc, ← total]
    exact h.places.append_right _
  · exact finished_concat h.ended fun i mem => others i (List.mem_append_left _ mem)
  · refine List.rel_append (underWay_concat h.running fun i mem => others i (List.mem_append_right _ mem)) ?_
    refine .cons ⟨w, [], here, rfl, .nil _, ?_⟩ .nil
    have own_next : own next (log ++ [.begins next]) = own next log ++ [.begins next] := own_concat_self rfl
    rw [own_next, unbegun next (Nat.le_refl _)]
    rfl
  · intro i late
    rw [total'] at late
    have other : i ≠ (Move.begins next).place := Nat.ne_of_gt late
    rw [own_concat_of_ne other, unbegun i (Nat.le_of_succ_le late)]
  · simp [Move.begun?, began, ← total, Nat.add_assoc]
  · simp [Move.ended?, h.closed]
  · refine h.bounded.concat ?_
    change _ ≤ _ + Pool.places ⟨size, w :: waiting, running⟩
    simp only [List.filterMap_append, List.length_append, began, h.closed]
    change next + 1 ≤ left.length + 0 + _
    omega
  · simpa [List.filterMap_cons, Move.dealing?] using h.replays

theorem deals {e : Effect} {next : e.Answer → Findings α}
    (h : Logged handle workers s₀ ⟨⟨size, waiting, before ++ w :: after⟩, done⟩ s log left going)
    (plan : w.plan = .perform e next) : ∃ log', Logged handle workers s₀
      ⟨⟨size, waiting, before ++ { w with plan := next (handle e s).1 } :: after⟩, done⟩ (handle e s).2 log'
      left going := by
  obtain ⟨first, j, last, rfl, ⟨v, ds, here, access, comes, moves⟩, firsts, lasts⟩ := forall₂_middle h.running
  rw [plan] at comes
  obtain ⟨lefts, firsts', lasts'⟩ := h.others (m := .deals j ⟨e, (handle e s).1⟩)
  refine ⟨log ++ [.deals j ⟨e, (handle e s).1⟩], h.line, h.within, h.places, finished_concat h.ended lefts, ?_,
    ?_, ?_, ?_, ?_, ?_⟩
  · refine List.rel_append (underWay_concat firsts firsts') (.cons ?_ (underWay_concat lasts lasts'))
    refine ⟨v, ds ++ [⟨e, (handle e s).1⟩], here, access, comes.concat _, ?_⟩
    have own_j : own j (log ++ [.deals j ⟨e, (handle e s).1⟩]) = own j log ++ [.deals j ⟨e, (handle e s).1⟩] :=
      own_concat_self rfl
    rw [own_j, moves, List.map_append]
    rfl
  · exact h.unbegun_concat (by simp [Move.place])
  · simpa [List.filterMap_cons, Move.begun?] using h.began
  · simpa [List.filterMap_cons, Move.ended?] using h.closed
  · refine h.bounded.concat ?_
    simpa [List.filterMap_cons, Move.begun?, Move.ended?] using h.bounded log (List.prefix_refl _)
  · simpa [Move.dealing?] using h.replays.concat e

theorem ends {result : Except Fault (List α)}
    (h : Logged handle workers s₀ ⟨⟨size, waiting, before ++ w :: after⟩, done⟩ s log left going)
    (plan : w.plan = .done result) : ∃ log' left' going', Logged handle workers s₀
      ⟨⟨size, waiting, before ++ after⟩, done ++ [(w.access, result)]⟩ s log' left' going' := by
  obtain ⟨first, j, last, rfl, ⟨v, ds, here, access, comes, moves⟩, firsts, lasts⟩ := forall₂_middle h.running
  rw [plan] at comes
  obtain ⟨lefts, firsts', lasts'⟩ := h.others (m := .ends j)
  have total : (left ++ [j]).length + (first ++ last).length = left.length + (first ++ j :: last).length := by
    simp only [List.length_append, List.length_cons, List.length_nil]
    omega
  refine ⟨log ++ [.ends j], left ++ [j], first ++ last, ?_, ?_, ?_, ?_, ?_, ?_, ?_, ?_, ?_, ?_⟩
  · rw [total]
    exact h.line
  · rw [total]
    exact h.within
  · rw [total]
    refine List.Perm.trans ?_ h.places
    rw [List.append_assoc, List.singleton_append]
    exact List.perm_middle.symm.append_left left
  · refine List.rel_append (finished_concat h.ended lefts) (.cons ⟨v, ds, here, access, comes, ?_⟩ .nil)
    have own_j : own j (log ++ [.ends j]) = own j log ++ [.ends j] := own_concat_self rfl
    rw [own_j, moves]
  · exact List.rel_append (underWay_concat firsts firsts') (underWay_concat lasts lasts')
  · rw [total]
    exact h.unbegun_concat (by simp [Move.place])
  · rw [total, ← h.began]
    simp [Move.begun?]
  · simp [Move.ended?, h.closed]
  · refine h.bounded.concat ?_
    have so_far : (log.filterMap Move.begun?).length ≤ (log.filterMap Move.ended?).length + max 1 size :=
      h.bounded log (List.prefix_refl _)
    change _ ≤ _ + max 1 size
    simp only [List.filterMap_append, List.length_append]
    change _ + 0 ≤ _ + 1 + _
    omega
  · simpa [List.filterMap_cons, Move.dealing?] using h.replays

theorem refill (pool : Pool (Worker α) (Worker α))
    (h : ∃ log going, Logged handle workers s₀ ⟨pool, done⟩ s log left going) :
    ∃ log going, Logged handle workers s₀ ⟨pool.refill id, done⟩ s log left going := by
  refine Pool.refill_keeps (P := fun pool => ∃ log going, Logged handle workers s₀ ⟨pool, done⟩ s log left going)
    id ?_ pool h
  rintro size w waiting running free ⟨log, going, h⟩
  exact h.begins free

theorem started (size : Nat) :
    ∃ log left going, Logged handle workers s (FanOut.start size workers) s log left going := by
  have waiting : Logged handle workers s ⟨⟨size, workers, []⟩, []⟩ s [] [] [] :=
    ⟨rfl, Nat.zero_le _, .nil, .nil, .nil, fun _ _ => rfl, rfl, rfl, .nil _, .nil⟩
  obtain ⟨log, going, h⟩ := refill _ ⟨[], [], waiting⟩
  exact ⟨log, [], going, h⟩

theorem steps (h : ∃ log left going, Logged handle workers s₀ f s log left going)
    (step : Steps handle f s f' s') : ∃ log left going, Logged handle workers s₀ f' s' log left going := by
  obtain ⟨log, left, going, h⟩ := h
  cases step with
  | ends plan =>
    obtain ⟨log', left', going', ended⟩ := h.ends plan
    obtain ⟨log', going', refilled⟩ := refill _ ⟨log', going', ended⟩
    exact ⟨log', left', going', refilled⟩
  | goes plan =>
    obtain ⟨log', dealt⟩ := h.deals plan
    exact ⟨log', left, going, dealt⟩

theorem all_left (h : Logged handle workers s₀ f s log left []) (nobody : f.pool.waiting = []) :
    left.length = workers.length := by
  have line := h.line
  rw [nobody, eq_comm, List.drop_eq_nil_iff] at line
  exact Nat.le_antisymm h.within line

theorem among (h : Logged handle workers s₀ f s log left []) (all : left.length = workers.length) :
    ∀ m ∈ log, m.place < workers.length := by
  intro m mem
  by_contra late
  have silent := h.unbegun m.place (by rw [all]; exact Nat.le_of_not_lt late)
  have moves : m ∈ own m.place log := List.mem_filter.2 ⟨mem, by simp⟩
  rw [silent] at moves
  cases moves

end Logged

/-- What a pool has come to, with its moves and what each worker has found, by its place in the line and in
the order in which they ended. -/
structure Unfolds (handle : (e : Effect) → σ → e.Answer × σ) (size : Nat) (workers : List (Worker α)) (s s' : σ)
    (log : List Move) (endings : List (Nat × Except Fault (List α))) : Prop where
  once : (endings.map Prod.fst).Perm (List.range workers.length)
  each : ∀ e ∈ endings, ∃ w ds, workers[e.1]? = some w ∧ w.plan.Comes ds (.done e.2) ∧
    own e.1 log = .begins e.1 :: ds.map (.deals e.1) ++ [.ends e.1]
  among : ∀ m ∈ log, m.place < workers.length
  began : (log.filterMap Move.begun?).length = workers.length
  closed : log.filterMap Move.ended? = endings.map Prod.fst
  bounded : InPlaces (max 1 size) log
  replays : Replays handle s (log.filterMap Move.dealing?) s'

theorem exists_endings (h : List.Forall₂ (Finished workers log) left done) :
    ∃ endings : List (Nat × Except Fault (List α)), endings.map Prod.fst = left ∧
      endings.map Prod.snd = done.map Prod.snd ∧
      ∀ e ∈ endings, ∃ w ds, workers[e.1]? = some w ∧ w.plan.Comes ds (.done e.2) ∧
        own e.1 log = .begins e.1 :: ds.map (.deals e.1) ++ [.ends e.1] := by
  induction h with
  | nil => exact ⟨[], rfl, rfl, List.forall_mem_nil _⟩
  | @cons i e _ _ here _ ih =>
    obtain ⟨endings, places, results, each⟩ := ih
    obtain ⟨w, ds, line, _, comes, moves⟩ := here
    refine ⟨(i, e.2) :: endings, ?_, ?_, List.forall_mem_cons.2 ⟨⟨w, ds, line, comes, moves⟩, each⟩⟩
    · rw [List.map_cons, places]
    · rw [List.map_cons, List.map_cons, results]

theorem exists_unfolding (handle : (e : Effect) → σ → e.Answer × σ) (size : Nat) (workers : List (Worker α))
    (choices : List Nat) (s : σ) : ∃ log endings,
      Unfolds handle size workers s (run handle size workers choices s).2 log endings ∧
      endings.map Prod.snd = (FanOut.endings handle size workers choices s).map Prod.snd := by
  obtain ⟨n, idle, ended, whole⟩ := run_eq_turns handle size workers choices s
  obtain ⟨⟨_, _, course⟩, _⟩ := Course.turns (s := s) (fun w (_ : w ∈ workers) => Course.keeps_told handle w)
    size (choices ++ List.replicate n 0) trivial
  obtain ⟨log, left, going, h⟩ := turns_keep
    (P := fun f s' => ∃ log left going, Logged handle workers s f s' log left going) Logged.steps
    (choices ++ List.replicate n 0) (Logged.started size)
  -- when nobody is running, nobody waits either, and all have ended
  have nobody := course.full.waiting_eq_nil idle
  have running := h.running
  rw [idle] at running
  cases running
  have all := h.all_left nobody
  have order := h.ended
  rw [ended] at order
  obtain ⟨endings, places, results, each⟩ := exists_endings order
  refine ⟨log, endings, ?_, results⟩
  constructor
  · rw [places, ← all]
    simpa using h.places
  · exact each
  · exact h.among all
  · rw [← all]
    exact h.began
  · rw [places]
    exact h.closed
  · have bounded := h.bounded
    rwa [Pool.places, course.sized] at bounded
  · rw [whole]
    exact h.replays

end FanOut

end Cloud

end GameDay
