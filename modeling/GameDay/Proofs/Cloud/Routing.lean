import GameDay.Proofs.Disruption.Requests
import GameDay.Proofs.Experiment.Restoration
import GameDay.Proofs.Inventory.Places

namespace GameDay

namespace Registry

variable {registry : Registry} {x : Access} {t : Target}

theorem reaches_of_marked (marked : x.Marked t) (placed : x.account ≠ "" ∧ x.region ≠ "") (a : Access) :
    a.reaches t = decide (a.account = x.account ∧ a.region = x.region) := by
  unfold Access.reaches
  rw [marked.account?, marked.region?, if_neg placed.1, if_neg placed.2]
  simp only [Option.some.injEq, Bool.decide_and, eq_comm]

theorem forTarget_of_marked (marked : x.Marked t) (placed : x.account ≠ "" ∧ x.region ≠ "")
    (mem : x ∈ registry.accesses) : ∃ a,
      registry.accesses.find? (fun a => a.account = x.account ∧ a.region = x.region) = some a ∧
        registry.forTarget t = .ok a := by
  have same : (fun a : Access => a.reaches t) =
      fun a => decide (a.account = x.account ∧ a.region = x.region) :=
    funext (reaches_of_marked marked placed)
  unfold forTarget
  rw [same]
  cases found : registry.accesses.find? fun a => a.account = x.account ∧ a.region = x.region with
  | some a => exact ⟨a, rfl, rfl⟩
  | none =>
    have missed := List.find?_eq_none.1 found x mem
    simp at missed

theorem forTarget_of_absent (marked : x.Marked t) (absent : x.account = "" ∨ x.region = "")
    (registry : Registry) : ∃ text, registry.forTarget t = .error (.connection text) := by
  have none : registry.accesses.find? (·.reaches t) = none := by
    rw [List.find?_eq_none]
    intro a _
    unfold Access.reaches
    rw [marked.account?, marked.region?]
    rcases absent with absent | absent <;> simp [absent]
  unfold forTarget
  rw [none]
  exact ⟨_, rfl⟩

end Registry

open Cloud (AgentState)

namespace Cloud

variable {W : Type} (cloud : Cloud W) (settings : Settings)

def findings (registry : Registry) (s : AgentState W) : List (Access × List Target) :=
  Inventory.findings cloud settings.poolSize registry.accesses settings.discovery.kinds s.scene

def CallsOnly (a : Access) (u v : AgentState W) : Prop :=
  ∃ more, v.scene.calls.toList = u.scene.calls.toList ++ more ∧ ∀ call ∈ more, call.1 = a

/-- A target can be connected to with a registry, and all that is done to it goes through an access. -/
structure Served (registry : Registry) (t : Target) (a : Access) : Prop where
  connects : ∀ params u, u.registry = some registry →
    ((cloud.agent settings).connect t params u).answer = .ok (some registry) ∧
      ((cloud.agent settings).connect t params u).world = u
  executes : ∀ skill ∈ (cloud.agent settings).skills, ∀ params u,
    CallsOnly a u (skill.execute ⟨some registry, t, params⟩ u).world
  polls : ∀ skill ∈ (cloud.agent settings).skills, ∀ params h u,
    CallsOnly a u (skill.status ⟨some registry, t, params⟩ h u).world
  undoes : ∀ skill ∈ (cloud.agent settings).skills, ∀ params h u,
    CallsOnly a u (skill.rollback ⟨some registry, t, params⟩ h u).world

structure Unserved (t : Target) : Prop where
  refuses : ∀ params u, ∃ text,
    ((cloud.agent settings).connect t params u).answer = .error (.connection text) ∧
      ((cloud.agent settings).connect t params u).world = u
  executes : ∀ skill ∈ (cloud.agent settings).skills, ∀ shared params u,
    (skill.execute ⟨shared, t, params⟩ u).world.scene.calls = u.scene.calls
  polls : ∀ skill ∈ (cloud.agent settings).skills, ∀ shared params h u,
    (skill.status ⟨shared, t, params⟩ h u).world.scene.calls = u.scene.calls
  undoes : ∀ skill ∈ (cloud.agent settings).skills, ∀ shared params h u,
    (skill.rollback ⟨shared, t, params⟩ h u).world.scene.calls = u.scene.calls

open Disruption (Reaches accessOf)

variable {cloud settings} {ctx : Context Connection} {kind : TargetKind} {α : Type} {action : Action α}
  {registry : Registry} {x a : Access} {t : Target}

theorem callsOnly_agentAct (reaches : action.run.Within (Reaches ctx kind))
    (access : accessOf ctx = .ok a) (u : AgentState W) : CallsOnly a u (cloud.agentAct action u).world := by
  obtain ⟨more, calls, kinds⟩ := cloud.calls_of_within u.scene reaches
  refine ⟨more, calls, ?_⟩
  intro call mem
  cases access.symm.trans (kinds call mem).1
  rfl

theorem calls_agentAct (reaches : action.run.Within (Reaches ctx kind))
    (unreached : ∀ a, accessOf ctx ≠ .ok a) (u : AgentState W) :
    (cloud.agentAct action u).world.scene.calls = u.scene.calls := by
  obtain ⟨more, calls, kinds⟩ := cloud.calls_of_within u.scene reaches
  cases more with
  | nil =>
    rw [List.append_nil] at calls
    exact Array.toList_inj.1 calls
  | cons call more => exact (unreached _ (kinds call (by simp)).1).elim

theorem served_of_forTarget (found : registry.forTarget t = .ok a) :
    cloud.Served settings registry t a := by
  have access (params : Yaml.Value) : accessOf ⟨some registry, t, params⟩ = .ok a := found
  constructor
  · intro params u loaded
    change (connect t u).answer = _ ∧ (connect t u).world = u
    unfold connect
    rw [loaded]
    exact ⟨by simp [AgentState.reply, found, Except.map], rfl⟩
  · intro skill mem params u
    obtain ⟨d, known, rfl⟩ := List.mem_map.1 mem
    exact callsOnly_agentAct (Disruption.reaches_execute _ known) (access params) u
  · intro skill mem params h u
    obtain ⟨d, known, rfl⟩ := List.mem_map.1 mem
    exact callsOnly_agentAct (Disruption.reaches_status _ h known) (access params) u
  · intro skill mem params h u
    obtain ⟨d, known, rfl⟩ := List.mem_map.1 mem
    exact callsOnly_agentAct (Disruption.reaches_rollback _ h known) (access params) u

theorem unserved_of_forTarget
    (nowhere : ∀ registry : Registry, ∃ text, registry.forTarget t = .error (.connection text)) :
    cloud.Unserved settings t := by
  have unreached (shared : Connection) (params : Yaml.Value) (a : Access) :
      accessOf ⟨shared, t, params⟩ ≠ .ok a := by
    cases shared with
    | none => exact fun h => nomatch h
    | some registry =>
      obtain ⟨text, failed⟩ := nowhere registry
      change registry.forTarget t ≠ .ok a
      simp [failed]
  constructor
  · intro params u
    change ∃ text, (connect t u).answer = _ ∧ (connect t u).world = u
    unfold connect
    cases u.registry with
    | none => exact ⟨_, rfl, rfl⟩
    | some registry =>
      obtain ⟨text, failed⟩ := nowhere registry
      exact ⟨text, by simp [AgentState.reply, failed, Except.map], rfl⟩
  · intro skill mem shared params u
    obtain ⟨d, known, rfl⟩ := List.mem_map.1 mem
    exact calls_agentAct (Disruption.reaches_execute _ known) (unreached shared params) u
  · intro skill mem shared params h u
    obtain ⟨d, known, rfl⟩ := List.mem_map.1 mem
    exact calls_agentAct (Disruption.reaches_status _ h known) (unreached shared params) u
  · intro skill mem shared params h u
    obtain ⟨d, known, rfl⟩ := List.mem_map.1 mem
    exact calls_agentAct (Disruption.reaches_rollback _ h known) (unreached shared params) u

theorem discover_answer {s s' : AgentState W} (loaded : s.registry = some registry)
    {targets : List Target} (discovered : (cloud.agent settings).Discovers s (.ok targets) s') :
    targets = (cloud.findings settings registry s).flatMap Prod.snd := by
  obtain ⟨_, failed, _⟩ | ⟨_, _, loaded', _, same, found⟩ := discover_cases rfl discovered
  · cases failed
  · cases same
    cases loaded.symm.trans loaded'
    exact Inventory.discover_eq_findings cloud _ _ found

/-- Whatever is told of a target, it is dealt with through the first access to the place where it was
found, and not at all if that is no proper place. -/
theorem calls_stay_in_place {s s' : AgentState W} (loaded : s.registry = some registry)
    {targets : List Target} (discovered : (cloud.agent settings).Discovers s (.ok targets) s') :
    targets = (cloud.findings settings registry s).flatMap Prod.snd ∧
      ∀ x found, (x, found) ∈ cloud.findings settings registry s → ∀ t ∈ found,
        (x.account ≠ "" ∧ x.region ≠ "" → ∃ a,
          registry.accesses.find? (fun a => a.account = x.account ∧ a.region = x.region) = some a ∧
            cloud.Served settings registry t a) ∧
        (x.account = "" ∨ x.region = "" → cloud.Unserved settings t) := by
  refine ⟨discover_answer loaded discovered, ?_⟩
  intro x found mem t ht
  obtain ⟨among, marked⟩ := Inventory.marked_findings cloud _ _ _ _ (x, found) mem
  constructor
  · intro placed
    obtain ⟨a, first, served⟩ := Registry.forTarget_of_marked (marked t ht) placed among
    exact ⟨a, first, served_of_forTarget served⟩
  · intro absent
    exact unserved_of_forTarget (Registry.forTarget_of_absent (marked t ht) absent)

end Cloud

namespace shelf

def settings : Cloud.Settings := ⟨[⟨"1", "eu", none⟩, ⟨"1", "eu", some "other"⟩], 1, ⟨true, false, false, false⟩⟩

def ready : AgentState ((Cloud.Place → Option String) × Nat) :=
  .withRegistry (fun _ => none, 0) settings.registry

theorem functions_served : ∃ found t,
    ((⟨1, "1", "eu", some "other"⟩ : Access), found) ∈ shelf.findings settings settings.registry ready ∧
      t ∈ found ∧ shelf.Served settings settings.registry t ⟨0, "1", "eu", none⟩ := by
  obtain ⟨found, t, second, first⟩ : ∃ found t,
      (shelf.findings settings settings.registry ready)[1]? =
        some ((⟨1, "1", "eu", some "other"⟩ : Access), found) ∧ found[0]? = some t := ⟨_, _, rfl, rfl⟩
  have mem := List.mem_of_getElem? second
  have ht := List.mem_of_getElem? first
  obtain ⟨targets, s', discovered⟩ : ∃ targets s',
      (shelf.agent settings).Discovers ready (.ok targets) s' := ⟨_, _, _, rfl⟩
  have loaded : ready.registry = some settings.registry := rfl
  obtain ⟨_, routes⟩ := Cloud.calls_stay_in_place loaded discovered
  obtain ⟨a, least, served⟩ := (routes _ found mem t ht).1 (by decide)
  cases least
  exact ⟨found, t, mem, ht, served⟩

end shelf

end GameDay
