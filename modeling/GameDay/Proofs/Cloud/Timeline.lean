import GameDay.Proofs.Cloud.FanOut
import Mathlib.Data.List.Perm.Basic

namespace GameDay

namespace Timeline

variable {α : Type}

theorem earliest_perm (r : Instant × Job α) (rest : List (Instant × Job α)) :
    ((earliest r rest).1 :: (earliest r rest).2).Perm (r :: rest) := by
  induction rest generalizing r with
  | nil => exact .refl _
  | cons s rest ih =>
    simp only [earliest]
    split
    · exact (List.Perm.swap _ _ _).trans (((ih r).cons s).trans (.swap _ _ _))
    · exact (List.Perm.swap _ _ _).trans ((ih s).cons r)

theorem earliest_le (r : Instant × Job α) (rest : List (Instant × Job α)) :
    ∀ s ∈ r :: rest, (earliest r rest).1.1 ≤ s.1 := by
  induction rest generalizing r with
  | nil => simp [earliest, Instant.le_iff]
  | cons s rest ih =>
    simp only [earliest]
    split
    · rename_i before
      have first := ih r r List.mem_cons_self
      rintro u (_ | ⟨_, _ | ⟨_, mem⟩⟩)
      · exact first
      · exact Nat.le_trans first before
      · exact ih r u (List.mem_cons_of_mem _ mem)
    · rename_i after
      have first := ih s s List.mem_cons_self
      rintro u (_ | ⟨_, mem⟩)
      · simp only [Instant.le_iff] at *
        omega
      · exact ih s u mem

def starts (log : List (Instant × Mark)) : List (Instant × Access) :=
  log.filterMap fun e => match e.2 with
    | .started a => some (e.1, a)
    | .ended _ => none

def ends (log : List (Instant × Mark)) : List (Instant × Access) :=
  log.filterMap fun e => match e.2 with
    | .started _ => none
    | .ended a => some (e.1, a)

def upTo (u : Instant) (log : List (Instant × Mark)) : List (Instant × Mark) :=
  log.filter fun e => e.1 ≤ u

theorem upTo_cons_of_le {u now : Instant} (h : now ≤ u) (mark : Mark) (log : List (Instant × Mark)) :
    upTo u ((now, mark) :: log) = (now, mark) :: upTo u log :=
  List.filter_cons_of_pos (decide_eq_true h)

theorem upTo_eq_nil {u : Instant} {log : List (Instant × Mark)} (h : ∀ e ∈ log, ¬ e.1 ≤ u) :
    upTo u log = [] :=
  List.filter_eq_nil_iff.2 fun e mem => by simpa using h e mem

section

variable (now : Instant) (a : Access) (log : List (Instant × Mark))

@[simp] theorem starts_started : starts ((now, .started a) :: log) = (now, a) :: starts log := rfl

@[simp] theorem starts_ended : starts ((now, .ended a) :: log) = starts log := rfl

@[simp] theorem ends_started : ends ((now, .started a) :: log) = ends log := rfl

@[simp] theorem ends_ended : ends ((now, .ended a) :: log) = (now, a) :: ends log := rfl

end

def finishing (r : Instant × Job α) : Instant × Job α := (r.1.after r.2.takes, r.2)

def foundBy (rs : List (Instant × Job α)) : List α := rs.flatMap fun r => r.2.found.getD []

structure Traces (now : Instant) (p : Pool (Job α) (Instant × Job α)) (t : Timeline α)
    (spans order : List (Instant × Job α)) : Prop where
  line : spans.map Prod.snd = p.waiting
  begun : starts t.log = spans.map fun r => (r.1, r.2.access)
  closed : ends t.log = order.map fun r => (r.1, r.2.access)
  perm : order.Perm (p.running ++ spans.map finishing)
  alone : p.size ≤ 1 → order = p.running ++ spans.map finishing
  merged : t.merged = foundBy order
  later : ∀ e ∈ t.log, now ≤ e.1
  sorted : t.log.Pairwise fun e f => e.1 ≤ f.1
  bounded : ∀ part, part <+: t.log →
    (ends part).length ≤ (starts part).length + p.running.length ∧
      (starts part).length + p.running.length ≤ (ends part).length + p.places
  busy : ∀ u, now ≤ u → (starts (upTo u t.log)).length = p.waiting.length ∨
    (starts (upTo u t.log)).length + p.running.length = (ends (upTo u t.log)).length + p.places

namespace Traces

variable {now : Instant} {size : Nat} {t : Timeline α} {spans order : List (Instant × Job α)}
  {waiting : List (Job α)} {running : List (Instant × Job α)}

theorem nothing : Traces now ⟨size, [], []⟩ ({} : Timeline α) [] [] where
  line := rfl
  begun := rfl
  closed := rfl
  perm := .nil
  alone _ := rfl
  merged := rfl
  later := by simp
  sorted := .nil
  bounded := by
    rintro part h
    obtain rfl := List.prefix_nil.1 h
    simp [starts, ends]
  busy := by simp [starts, upTo]

theorem starting {job : Job α}
    (h : Traces now ⟨size, waiting, running ++ [(now.after job.takes, job)]⟩ t spans order)
    (free : running.length < Pool.places ⟨size, job :: waiting, running⟩) :
    Traces now ⟨size, job :: waiting, running⟩ (t.starting now job) ((now, job) :: spans) order where
  line := congrArg (job :: ·) h.line
  begun := congrArg ((now, job.access) :: ·) h.begun
  closed := h.closed
  perm := by simpa [finishing] using h.perm
  alone single := by simpa [finishing] using h.alone single
  merged := h.merged
  later := List.forall_mem_cons.2 ⟨Nat.le_refl _, h.later⟩
  sorted := .cons h.later h.sorted
  bounded := by
    have places : Pool.places ⟨size, waiting, running ++ [(now.after job.takes, job)]⟩ =
      Pool.places ⟨size, job :: waiting, running⟩ := rfl
    rintro part before
    rcases List.prefix_cons_iff.1 before with rfl | ⟨part, rfl, within⟩
    · simp only [starts, ends, List.filterMap_nil, List.length_nil]
      omega
    · have counted := h.bounded part within
      simp only [places, List.length_append, List.length_singleton] at counted
      simp only [starts_started, ends_started, List.length_cons]
      omega
  busy := by
    intro u reached
    have places : Pool.places ⟨size, waiting, running ++ [(now.after job.takes, job)]⟩ =
      Pool.places ⟨size, job :: waiting, running⟩ := rfl
    have counted := h.busy u reached
    simp only [places, List.length_append, List.length_singleton] at counted
    simp only [Timeline.starting, upTo_cons_of_le reached, starts_started, ends_started,
      List.length_cons]
    omega

theorem ending (first : Instant × Job α) {others : List (Instant × Job α)}
    (h : Traces first.1 ⟨size, waiting, others⟩ t spans order)
    (parts : (first :: others).Perm running) (ahead : now ≤ first.1)
    (bounded : running.length ≤ Pool.places ⟨size, waiting, running⟩)
    (full : first.1 ≤ now ∨ running.length = Pool.places ⟨size, waiting, running⟩ ∨ waiting = []) :
    Traces now ⟨size, waiting, running⟩ (t.ending first.1 first.2) spans (first :: order) where
  line := h.line
  begun := h.begun
  closed := congrArg ((first.1, first.2.access) :: ·) h.closed
  perm := (h.perm.cons first).trans (parts.append_right _)
  alone single := by
    have places : Pool.places ⟨size, waiting, running⟩ = 1 := Nat.max_eq_left single
    have lengths := parts.length_eq
    obtain rfl : others = [] := List.eq_nil_of_length_eq_zero (by rw [List.length_cons] at lengths; omega)
    obtain rfl : running = [first] := List.perm_singleton.1 parts.symm
    exact congrArg (first :: ·) (h.alone single)
  merged := congrArg (first.2.found.getD [] ++ ·) h.merged
  later := by
    refine List.forall_mem_cons.2 ⟨ahead, fun e mem => ?_⟩
    exact Nat.le_trans ahead (h.later e mem)
  sorted := .cons h.later h.sorted
  bounded := by
    have lengths := parts.length_eq
    have places : Pool.places ⟨size, waiting, others⟩ = Pool.places ⟨size, waiting, running⟩ := rfl
    rw [List.length_cons] at lengths
    rintro part before
    rcases List.prefix_cons_iff.1 before with rfl | ⟨part, rfl, within⟩
    · simp only [starts, ends, List.filterMap_nil, List.length_nil]
      omega
    · have counted := h.bounded part within
      simp only [places] at counted
      simp only [starts_ended, ends_ended, List.length_cons]
      omega
  busy := by
    have lengths := parts.length_eq
    have places : Pool.places ⟨size, waiting, others⟩ = Pool.places ⟨size, waiting, running⟩ := rfl
    rw [List.length_cons] at lengths
    intro u reached
    by_cases ended : first.1 ≤ u
    · have counted := h.busy u ended
      simp only [places] at counted
      simp only [Timeline.ending, upTo_cons_of_le ended, starts_ended, ends_ended, List.length_cons]
      omega
    · -- nothing has happened yet, so the pool is as it was
      have unseen : upTo u (t.ending first.1 first.2).log = [] := by
        refine upTo_eq_nil (List.forall_mem_cons.2 ⟨ended, fun e mem seen => ended ?_⟩)
        exact Nat.le_trans (h.later e mem) seen
      rw [unseen]
      simp only [starts, ends, List.filterMap_nil, List.length_nil]
      rcases full with now_or | full | none
      · simp only [Instant.le_iff] at *
        omega
      · right
        omega
      · left
        simp [none]

end Traces

theorem exists_traces (now : Instant) (p : Pool (Job α) (Instant × Job α))
    (bounded : p.running.length ≤ p.places) (ahead : ∀ r ∈ p.running, now ≤ r.1) :
    ∃ spans order, Traces now p (ofPool now p) spans order := by
  fun_induction ofPool now p with
  -- a worker that takes no time ends before the next one begins
  | case1 now p job q hn _ zero ih =>
    obtain ⟨same, free⟩ := Pool.split_of_next? hn
    rw [same] at bounded ahead free ⊢
    obtain ⟨spans, order, h⟩ := ih bounded ahead
    have instant : now.after job.takes = now := by rw [zero]; rfl
    have ended : Traces now ⟨q.size, q.waiting, q.running ++ [(now, job)]⟩ ((ofPool now q).ending now job)
        spans ((now, job) :: order) :=
      h.ending (now, job) (List.perm_append_singleton _ _).symm (Nat.le_refl _)
      (by rw [List.length_append]; exact free) (.inl (Nat.le_refl _))
    rw [← instant] at ended
    exact ⟨_, _, Traces.starting (by simpa [instant] using ended) free⟩
  | case2 now p job q hn _ long ih =>
    obtain ⟨same, free⟩ := Pool.split_of_next? hn
    rw [same] at bounded ahead free ⊢
    have later : now ≤ now.after job.takes := Nat.le_add_right _ _
    obtain ⟨spans, order, h⟩ := ih (by rw [List.length_append]; exact free)
      (List.forall_mem_append.2 ⟨ahead, List.forall_mem_singleton.2 later⟩)
    exact ⟨_, _, h.starting free⟩
  | case3 now p hn idle =>
    obtain ⟨size, waiting, running⟩ := p
    obtain rfl : running = [] := idle
    obtain rfl : waiting = [] := (Pool.full_of_next? hn bounded).waiting_eq_nil rfl
    exact ⟨_, _, Traces.nothing⟩
  -- the places are taken, or nobody waits, until the first of the running ends
  | case4 now p hn r rest running next _ ih =>
    obtain ⟨size, waiting, running'⟩ := p
    obtain rfl : running' = r :: rest := running
    have full := Pool.full_of_next? hn bounded
    have parts : (next.1 :: next.2).Perm (r :: rest) := earliest_perm r rest
    have first := earliest_le r rest
    have fewer : next.2.length ≤ Pool.places ⟨size, waiting, r :: rest⟩ := by
      have lengths := parts.length_eq
      rw [List.length_cons] at lengths
      exact Nat.le_trans (by omega) bounded
    obtain ⟨spans, order, h⟩ := ih fewer fun s mem => first s (parts.mem_iff.1 (List.mem_cons_of_mem _ mem))
    have ahead' : now ≤ next.1.1 := ahead _ (parts.mem_iff.1 List.mem_cons_self)
    exact ⟨_, _, h.ending next.1 parts ahead' bounded (.inr full.busy)⟩

theorem most_le {n : Nat} (log : List (Instant × Mark)) (running most : Nat) (start : most ≤ n)
    (bounded : ∀ part, part <+: log → (ends part).length ≤ (starts part).length + running ∧
      (starts part).length + running ≤ (ends part).length + n) :
    (log.foldl (fun (running, most) e => match e.2 with
      | .started _ => (running + 1, max most (running + 1))
      | .ended _ => (running - 1, most)) (running, most)).2 ≤ n := by
  -- what begins the rest of the log, with the first entry before it, begins the whole
  induction log generalizing running most with
  | nil => exact start
  | cons e log ih =>
    obtain ⟨now, mark⟩ := e
    have first := bounded [(now, mark)] ⟨log, rfl⟩
    have rest := fun part (h : part <+: log) =>
      bounded ((now, mark) :: part) (List.cons_prefix_cons.2 ⟨rfl, h⟩)
    cases mark with
    | started a =>
      simp only [starts_started, ends_started, List.length_cons] at first rest
      simp only [starts, ends, List.filterMap_nil, List.length_nil] at first
      refine ih _ _ (by omega) fun part h => ?_
      have counted := rest part h
      omega
    | ended a =>
      simp only [starts_ended, ends_ended, List.length_cons] at first rest
      simp only [starts, ends, List.filterMap_nil, List.length_nil] at first
      refine ih _ _ start fun part h => ?_
      have counted := rest part h
      omega

structure Schedule (size : Nat) (jobs : List (Job α)) (t : Timeline α)
    (spans order : List (Instant × Job α)) : Prop where
  line : spans.map Prod.snd = jobs
  begun : starts t.log = spans.map fun r => (r.1, r.2.access)
  perm : order.Perm (spans.map finishing)
  closed : ends t.log = order.map fun r => (r.1, r.2.access)
  merged : t.merged = foundBy order
  sorted : t.log.Pairwise fun e f => e.1 ≤ f.1
  bounded : ∀ part, part <+: t.log → (ends part).length ≤ (starts part).length ∧
    (starts part).length ≤ (ends part).length + max 1 size
  busy : ∀ u, (starts (upTo u t.log)).length = jobs.length ∨
    (starts (upTo u t.log)).length = (ends (upTo u t.log)).length + max 1 size
  alone : size ≤ 1 → order = spans.map finishing

theorem exists_schedule (size : Nat) (jobs : List (Job α)) :
    ∃ spans order, Schedule size jobs (ofJobs size jobs) spans order := by
  obtain ⟨spans, order, h⟩ := exists_traces .zero { size, waiting := jobs } (Nat.zero_le _) (by simp)
  exact ⟨spans, order, h.line, h.begun, h.perm, h.closed, h.merged, h.sorted, h.bounded,
    fun u => h.busy u (Nat.zero_le _), h.alone⟩

namespace Schedule

variable {size : Nat} {jobs : List (Job α)} {t : Timeline α} {spans order : List (Instant × Job α)}

theorem peak_le (h : Schedule size jobs t spans order) : t.peak ≤ max 1 size :=
  most_le t.log 0 0 (Nat.zero_le _) h.bounded

theorem foundBy_spans (h : Schedule size jobs t spans order) :
    foundBy (spans.map finishing) = jobs.flatMap fun job => job.found.getD [] := by
  rw [← h.line, foundBy, List.flatMap_map, List.flatMap_map]
  rfl

theorem merged_perm (h : Schedule size jobs t spans order) :
    t.merged.Perm (jobs.flatMap fun job => job.found.getD []) := by
  rw [h.merged, ← h.foundBy_spans]
  exact h.perm.flatMap_right _

theorem merged_eq (h : Schedule size jobs t spans order) (single : size ≤ 1) :
    t.merged = jobs.flatMap fun job => job.found.getD [] := by
  rw [h.merged, h.alone single, h.foundBy_spans]

end Schedule

end Timeline

open Cloud (Effect Worker FanOut)

/-- The workers of a pool begin once each, in the order of their line, and as many run at a time as there
are places, or all have begun. Each ends once. What the workers found is put together as they end, and but
for that order it is the same for every pool and however long they take. -/
theorem bounded_fan_out {α σ : Type} (size : Nat) :
    (∀ jobs : List (Job α), (∃ spans order,
        Timeline.Schedule size jobs (Timeline.ofJobs size jobs) spans order) ∧
      (Timeline.ofJobs size jobs).peak ≤ max 1 size ∧
      (Timeline.ofJobs size jobs).merged.Perm (jobs.flatMap fun job => job.found.getD []) ∧
      (size ≤ 1 → (Timeline.ofJobs size jobs).merged = jobs.flatMap fun job => job.found.getD [])) ∧
    ∀ (handle : (e : Effect) → σ → e.Answer × σ) (workers : List (Worker α)) (choices : List Nat) (s : σ),
      (∃ left going, FanOut.Course (FanOut.Told handle) size workers left going
        ((FanOut.start size workers).turns handle choices s).1) ∧
      (∃ n, let all := (FanOut.start size workers).turns handle (choices ++ List.replicate n 0) s
        all.1.pool.running = [] ∧ all.1.ended = FanOut.endings handle size workers choices s ∧
          FanOut.run handle size workers choices s = (all.1.merged, all.2)) ∧
      (∃ order : List (Worker α), order.Perm workers ∧ (size ≤ 1 → order = workers) ∧
        List.Forall₂ (Worker.EndsWith (FanOut.Told handle)) order
          (FanOut.endings handle size workers choices s)) ∧
      (FanOut.run handle size workers choices s).1 =
        (FanOut.endings handle size workers choices s).flatMap (fun e => FanOut.foundBy e.2) ∧
      ∀ result : Worker α → Except Cloud.Fault (List α),
        (∀ w ∈ workers, w.plan.Yields (· = result w)) →
        (FanOut.run handle size workers choices s).1.Perm
            (workers.flatMap fun w => FanOut.foundBy (result w)) ∧
          (size ≤ 1 → (FanOut.run handle size workers choices s).1 =
            workers.flatMap fun w => FanOut.foundBy (result w)) := by
  constructor
  · intro jobs
    obtain ⟨spans, order, h⟩ := Timeline.exists_schedule size jobs
    exact ⟨⟨spans, order, h⟩, h.peak_le, h.merged_perm, h.merged_eq⟩
  · intro handle workers choices s
    have keeps := fun w (_ : w ∈ workers) => FanOut.Course.keeps_told handle w
    obtain ⟨⟨order, perm, single, each⟩, _⟩ := FanOut.exists_order (s := s) keeps size choices trivial
    refine ⟨(FanOut.Course.turns keeps size choices trivial).1,
      FanOut.run_eq_turns handle size workers choices s, ⟨order, perm, single, each⟩,
      FanOut.run_eq_endings handle size workers choices s, fun result fixed => ?_⟩
    have same := FanOut.run_eq_of_fixed each fun w mem => fixed w (perm.mem_iff.1 mem)
    rw [same]
    refine ⟨perm.flatMap_right _, fun alone => ?_⟩
    rw [single alone]

namespace threeAccounts

def accesses : List Access := [⟨0, "a", "eu", none⟩, ⟨1, "b", "eu", none⟩, ⟨2, "c", "us", none⟩]

def found (a : Access) : Except Cloud.Fault (List Nat) :=
  if a.number = 1 then .error .endless else .ok [a.number, a.number + 10]

def jobs : List (Job Nat) :=
  [⟨⟨0, "a", "eu", none⟩, ⟨30, by decide⟩, some [0, 10]⟩, ⟨⟨1, "b", "eu", none⟩, .zero, none⟩,
    ⟨⟨2, "c", "us", none⟩, ⟨10, by decide⟩, some [2, 12]⟩]

def workers : List (Worker Nat) :=
  accesses.map fun a => ⟨a, .perform .clock fun _ => .done (found a)⟩

def unanswered : (e : Effect) → Unit → e.Answer × Unit
  | .send _ _, s => (.error { text := "timeout" }, s)
  | .lookUp _, s => (none, s)
  | .record _ _, s => ((), s)
  | .clock, s => (.epoch, s)
  | .freshId, s => (⟨0⟩, s)

theorem fan_out_in_order : 0 ≤ 1 ∧ (Timeline.ofJobs 0 jobs).merged = [0, 10, 2, 12] ∧
    (∀ w ∈ workers, w.plan.Yields (· = found w.access)) ∧
    (FanOut.run unanswered 0 workers [2, 0, 1] ()).1 = [0, 10, 2, 12] := by
  have single : 0 ≤ 1 := by decide
  have fixed : ∀ w ∈ workers, w.plan.Yields (· = found w.access) := by
    intro w mem
    obtain ⟨a, _, rfl⟩ := List.mem_map.1 mem
    exact .perform fun _ => .done rfl
  obtain ⟨timelines, runs⟩ := bounded_fan_out (α := Nat) (σ := Unit) 0
  obtain ⟨_, _, _, _, unmoved⟩ := runs unanswered workers [2, 0, 1] ()
  exact ⟨single, (timelines jobs).2.2.2 single, fixed, (unmoved (fun w => found w.access) fixed).2 single⟩

end threeAccounts

end GameDay
