import GameDay.Cloud.Environment
import GameDay.Inventory.Functions
import GameDay.Inventory.NodeGroups
import GameDay.Inventory.Templates

namespace GameDay.Inventory

open Cloud (Findings Worker FanOut Scene)

def ofKind (limit : Nat) : TargetKind → Access → Findings Target
  | .lambda => functions limit
  | .nodeGroup => nodeGroups limit
  | .broker => brokers limit
  | .template => templates limit

variable {W : Type} (cloud : Cloud W)

def seekers (accesses : List Access) (kind : TargetKind) : List (Worker Target) :=
  accesses.map fun a => ⟨a, ofKind cloud.pageLimit kind a⟩

def everywhere (size : Nat) (accesses : List Access) (kind : TargetKind) (s : Scene W) :
    Option (List Target) × Scene W :=
  let (choices, world) := cloud.turns s.world
  let (f, s) := FanOut.complete cloud.perform size (seekers cloud accesses kind) choices { s with world }
  (if f.uncut then some f.merged else none, s)

def discover (size : Nat) (accesses : List Access) :
    List TargetKind → Scene W → Option (List Target) × Scene W
  | [], s => (some [], s)
  | kind :: kinds, s =>
    match everywhere cloud size accesses kind s with
    | (none, s) => (none, s)
    | (some found, s) =>
      let (more, s) := discover size accesses kinds s
      (more.map (found ++ ·), s)

variable {cloud} {size : Nat} {accesses : List Access} {kind : TargetKind} {kinds : List TargetKind}
  {s s' : Scene W} {targets : List Target}

theorem everywhere_eq_some {found : List Target} :
    everywhere cloud size accesses kind s = (some found, s') ↔
      let choices := (cloud.turns s.world).1
      let begun := { s with world := (cloud.turns s.world).2 }
      (FanOut.complete cloud.perform size (seekers cloud accesses kind) choices begun).1.uncut ∧
        FanOut.run cloud.perform size (seekers cloud accesses kind) choices begun = (found, s') := by
  simp only [everywhere, FanOut.run, Prod.mk.injEq]
  split <;> simp_all

theorem discover_cons_eq_some : discover cloud size accesses (kind :: kinds) s = (some targets, s') ↔
    ∃ found s₁ more, everywhere cloud size accesses kind s = (some found, s₁) ∧
      discover cloud size accesses kinds s₁ = (some more, s') ∧ targets = found ++ more := by
  rcases first : everywhere cloud size accesses kind s with ⟨_ | found, s₁⟩
  · simp [discover, first]
  · rcases rest : discover cloud size accesses kinds s₁ with ⟨_ | more, s₂⟩
    · simp [discover, first, rest]
    · simp only [discover, first, rest, Option.map_some, Prod.mk.injEq, Option.some.injEq]
      constructor
      · rintro ⟨rfl, rfl⟩
        exact ⟨found, s₁, more, ⟨rfl, rfl⟩, rest, rfl⟩
      · rintro ⟨_, _, _, ⟨rfl, rfl⟩, again, rfl⟩
        cases rest.symm.trans again
        exact ⟨rfl, rfl⟩

end GameDay.Inventory
