import GameDay.Cloud.Access
import GameDay.Instant

/-!
Pools: workers wait in a line and run in a limited number of places. A pool has at least one
place, and a free place goes to the next in the line.

A timeline is what a pool does when it is known beforehand how long each worker takes.
-/

namespace GameDay

structure Pool (ι ρ : Type) where
  size : Nat
  waiting : List ι
  running : List ρ := []

namespace Pool

variable {ι ρ : Type}

def places (p : Pool ι ρ) : Nat := max 1 p.size

def next? (p : Pool ι ρ) : Option (ι × Pool ι ρ) :=
  match p.waiting with
  | [] => none
  | w :: waiting => if p.running.length < p.places then some (w, { p with waiting }) else none

theorem waiting_of_next? {p q : Pool ι ρ} {w : ι} (h : p.next? = some (w, q)) :
    p.waiting = w :: q.waiting ∧ q.running = p.running := by
  unfold next? at h
  split at h
  · cases h
  · rename_i hw
    split at h
    · cases h; exact ⟨hw, rfl⟩
    · cases h

def refill (start : ι → ρ) (p : Pool ι ρ) : Pool ι ρ :=
  let free := p.places - p.running.length
  { p with
    waiting := p.waiting.drop free
    running := p.running ++ (p.waiting.take free).map start }

end Pool

structure Job (α : Type) where
  access : Access
  takes : Duration
  found : Option (List α)

inductive Mark
  | started (access : Access)
  | ended (access : Access)
deriving DecidableEq

structure Timeline (α : Type) where
  log : List (Instant × Mark) := []
  merged : List α := []

namespace Timeline

variable {α : Type}

def starting (now : Instant) (job : Job α) (t : Timeline α) : Timeline α :=
  { t with log := (now, .started job.access) :: t.log }

def ending (now : Instant) (job : Job α) (t : Timeline α) : Timeline α :=
  { log := (now, .ended job.access) :: t.log, merged := job.found.getD [] ++ t.merged }

def earliest : Instant × Job α → List (Instant × Job α) →
    (Instant × Job α) × List (Instant × Job α)
  | r, [] => (r, [])
  | r, s :: rest =>
    if r.1 ≤ s.1 then
      let (first, others) := earliest r rest
      (first, s :: others)
    else
      let (first, others) := earliest s rest
      (first, r :: others)

theorem length_earliest (r : Instant × Job α) (rest : List (Instant × Job α)) :
    (earliest r rest).2.length = rest.length := by
  induction rest generalizing r with
  | nil => rfl
  | cons s rest ih =>
    simp only [earliest]
    split <;> simp [ih]

/-- Goes on from an instant. A worker that takes no time ends before another is started. -/
def ofPool (now : Instant) (p : Pool (Job α) (Instant × Job α)) : Timeline α :=
  match hn : p.next? with
  | some (job, q) =>
    have := Pool.waiting_of_next? hn
    if job.takes = .zero then ((ofPool now q).ending now job).starting now job
    else
      (ofPool now { q with running := q.running ++ [(now.after job.takes, job)] }).starting now job
  | none =>
    match hr : p.running with
    | [] => {}
    | r :: rest =>
      let next := earliest r rest
      have : next.2.length < p.running.length := by simp [next, hr, length_earliest]
      (ofPool next.1.1 { p with running := next.2 }).ending next.1.1 next.1.2
termination_by 2 * p.waiting.length + p.running.length
decreasing_by
  · simp [this]
  · simp [this]; omega
  · simpa using this

def ofJobs (size : Nat) (jobs : List (Job α)) : Timeline α := ofPool .zero { size, waiting := jobs }

def peak (t : Timeline α) : Nat :=
  (t.log.foldl (fun (running, most) e => match e.2 with
    | .started _ => (running + 1, max most (running + 1))
    | .ended _ => (running - 1, most)) (0, 0)).2

end Timeline

end GameDay
