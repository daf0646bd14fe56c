import GameDay.Cloud.FanOut

namespace GameDay.Cloud

/-- The token to go on with, given the one that a page was asked for with and the one that it
came with. -/
abbrev Follow : Type := Option String → Option String → Option String

def Follow.always : Follow := fun _ next => next

/-- Ends at an empty token and at one that was just used. -/
def Follow.unlessStuck : Follow := fun used next =>
  if next = some "" ∨ next = used then none else next

variable {α β : Type}

def Plan.forEach (each : α → Plan (List β)) : List α → Plan (List β)
  | [] => return []
  | a :: as => do
    let found ← each a
    let more ← forEach each as
    return found ++ more

/-- What a listing has found, and what it was cut short by, if it was. -/
structure Gathered (β : Type) where
  found : List β := []
  fault : Option Fault := none

namespace Gathered

def whole (g : Gathered β) : Except Fault (List β) :=
  match g.fault with
  | none => .ok g.found
  | some fault => .error fault

variable {g : Gathered β}

theorem whole_eq_ok {found : List β} : g.whole = .ok found ↔ g.fault = none ∧ g.found = found := by
  unfold whole
  cases g.fault <;> simp

theorem whole_eq_error {fault : Fault} : g.whole = .error fault ↔ g.fault = some fault := by
  unfold whole
  cases g.fault <;> simp

end Gathered

section

variable (ask : Option String → Plan (Except ServiceError (Page α))) (follow : Follow)
  (each : α → Plan (List β))

/-- Asks for pages, at most the given number, and does a plan for each of their items. -/
def gather : Nat → Option String → Plan (Gathered β)
  | 0, _ => return { fault := some .endless }
  | limit + 1, token => do
    match ← ask token with
    | .error e => return { fault := some (.refused e) }
    | .ok page =>
      let found ← Plan.forEach each page.items
      match follow token page.next with
      | none => return { found }
      | some next => do
        let more ← gather limit (some next)
        return { more with found := found ++ more.found }

def pages (limit : Nat) (token : Option String) : Plan (Except Fault (List β)) :=
  (gather ask follow each limit token).bind fun g => .done g.whole

end

end GameDay.Cloud
