import GameDay.Cloud.Pool
import GameDay.Cloud.Plan

/-!
Many accounts at a time: each access has a worker with a plan of its own, and a pool decides
which workers run. Running workers take turns, an effect at a time, in any order.
-/

namespace GameDay.Cloud

/-- Why a listing is not complete. One that goes on for more pages than are followed is taken to go on for
ever. -/
inductive Fault
  | refused (error : ServiceError)
  | endless
deriving DecidableEq

abbrev Findings (α : Type) : Type := Plan (Except Fault (List α))

structure Worker (α : Type) where
  access : Access
  plan : Findings α

/-- A pool of workers, and those that have ended, in that order, with what they found. -/
structure FanOut (α : Type) where
  pool : Pool (Worker α) (Worker α)
  ended : List (Access × Except Fault (List α)) := []

namespace FanOut

variable {α σ : Type} (handle : (e : Effect) → σ → e.Answer × σ)

def start (size : Nat) (workers : List (Worker α)) : FanOut α :=
  { pool := { size, waiting := workers : Pool (Worker α) (Worker α) }.refill id }

/-- All that was found, in the order in which the workers ended. One that failed adds nothing. -/
def merged (f : FanOut α) : List α :=
  f.ended.flatMap fun e => match e.2 with
    | .ok found => found
    | .error _ => []

def retire (f : FanOut α) (i : Nat) (w : Worker α) (result : Except Fault (List α)) : FanOut α :=
  { pool := { f.pool with running := f.pool.running.eraseIdx i }.refill id
    ended := f.ended ++ [(w.access, result)] }

def turn (choice : Nat) (f : FanOut α) (s : σ) : FanOut α × σ :=
  let i := choice % f.pool.running.length
  match f.pool.running[i]? with
  | none => (f, s)
  | some w => match w.plan with
    | .done result => (f.retire i w result, s)
    | .perform effect next =>
      let (answer, s) := handle effect s
      ({ f with pool.running := f.pool.running.set i { w with plan := next answer } }, s)

def turns : List Nat → FanOut α → σ → FanOut α × σ
  | [], f, s => (f, s)
  | choice :: choices, f, s => let (f, s) := f.turn handle choice s; turns choices f s

def finish : List (Worker α) → σ → List (Access × Except Fault (List α)) × σ
  | [], s => ([], s)
  | w :: workers, s =>
    let (result, s) := w.plan.run handle s
    let (ended, s) := finish workers s
    ((w.access, result) :: ended, s)

variable (size : Nat) (workers : List (Worker α)) (choices : List Nat) (s : σ)

/-- Lets all workers end: they take turns as long as there are choices, and then go one after the other. -/
def complete : FanOut α × σ :=
  let (f, s) := (start size workers).turns handle choices s
  let (ended, s) := finish handle (f.pool.running ++ f.pool.waiting) s
  ({ f with ended := f.ended ++ ended }, s)

def run : List α × σ :=
  let (f, s) := complete handle size workers choices s
  (f.merged, s)

def uncut (f : FanOut α) : Bool :=
  f.ended.all fun e => match e.2 with
    | .error .endless => false
    | _ => true

end FanOut

end GameDay.Cloud
