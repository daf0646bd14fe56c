import GameDay.Command.Offline
import GameDay.Cloud.Agent
import Mathlib.Data.List.Basic
import Mathlib.Data.List.Induction

namespace GameDay

namespace AgentStatus

inductive Settled : AgentStatus → Prop
  | idle : Settled .idle
  | ready : Settled .ready
  | failed (reason : String) : Settled (.failed reason)

theorem not_settled_discovering : ¬ Settled .discovering := by
  rintro ⟨⟩

end AgentStatus

namespace Cloud

inductive Operation
  | prepare
  | discover
  | shutDown
deriving DecidableEq

inductive Origin (W : Type)
  | fresh (world : W)
  | withRegistry (world : W) (registry : Registry)

namespace Origin

variable {W : Type}

def state : Origin W → AgentState W
  | fresh world => { scene := { world } }
  | withRegistry world registry => .withRegistry world registry

end Origin

variable {W : Type} (cloud : Cloud W) (settings : Settings)

def Operation.after (s : AgentState W) : Operation → Option (AgentState W)
  | prepare => some (Cloud.prepare settings s).world
  | discover => (cloud.discover settings s).map Reply.world
  | shutDown => some s.shutDown

def operate (s : AgentState W) (ops : List Operation) : Option (AgentState W) :=
  ops.foldlM (Operation.after cloud settings) s

/-- An agent began without accesses or was shut down, and has not been prepared with any since. -/
def Unloaded (origin : Origin W) (ops : List Operation) : Prop :=
  ∃ before since, ops = before ++ since ∧ (settings.accesses = [] ∨ .prepare ∉ since) ∧
    (before.getLast? = some .shutDown ∨ before = [] ∧ origin.state.registry = none)

variable {cloud settings}

theorem operate_concat {s s' : AgentState W} {ops : List Operation} {op : Operation} :
    cloud.operate settings s (ops ++ [op]) = some s' ↔
      ∃ u, cloud.operate settings s ops = some u ∧ op.after cloud settings u = some s' := by
  simp [operate, List.foldlM_append, Option.bind_eq_some_iff]

section step

variable {s s' : AgentState W} {op : Operation} (done : op.after cloud settings s = some s')
include done

theorem registry_after : s'.registry = match op with
    | .prepare => if settings.accesses = [] then s.registry else some settings.registry
    | .discover => s.registry
    | .shutDown => none := by
  cases op with
  | prepare =>
    cases done
    simp only [prepare]
    split <;> rfl
  | discover =>
    obtain ⟨r, replied, rfl⟩ := Option.map_eq_some_iff.1 done
    unfold discover at replied
    split at replied
    · cases replied
      rfl
    · split at replied
      · cases replied
        rfl
      · obtain ⟨targets, _, rfl⟩ := Option.map_eq_some_iff.1 replied
        rfl
  | shutDown =>
    cases done
    rfl

theorem settled_after : s'.status.Settled ∧ (op = .discover → s.registry ≠ none) ∨
    op = .discover ∧ s.registry = none ∧ s'.status = .discovering := by
  cases op with
  | prepare =>
    left
    cases done
    simp only [prepare]
    split
    · exact ⟨.failed _, fun h => nomatch h⟩
    · exact ⟨.ready, fun h => nomatch h⟩
  | discover =>
    obtain ⟨r, replied, rfl⟩ := Option.map_eq_some_iff.1 done
    unfold discover at replied
    split at replied
    · rename_i unloaded
      cases replied
      exact .inr ⟨rfl, unloaded, rfl⟩
    · rename_i registry loaded
      left
      refine ⟨?_, fun _ => loaded ▸ Option.some_ne_none registry⟩
      split at replied
      · cases replied
        exact .failed _
      · obtain ⟨targets, _, rfl⟩ := Option.map_eq_some_iff.1 replied
        exact .ready
  | shutDown =>
    cases done
    exact .inl ⟨.idle, fun h => nomatch h⟩

theorem loaded_after (ready : s'.status = .ready) : s'.registry ≠ none := by
  rw [registry_after done]
  cases op with
  | prepare =>
    cases done
    simp only [prepare] at ready
    split at ready
    · cases ready
    · rename_i some
      simp only [if_neg some]
      exact Option.some_ne_none _
  | discover =>
    obtain ⟨_, loaded⟩ | ⟨_, _, under⟩ := settled_after done
    · exact loaded rfl
    · cases ready.symm.trans under
  | shutDown =>
    cases done
    cases ready

end step

theorem unloaded_concat_iff {origin : Origin W} {ops : List Operation} {op : Operation} :
    Unloaded settings origin (ops ++ [op]) ↔
      op = .shutDown ∨ Unloaded settings origin ops ∧ (settings.accesses = [] ∨ op ≠ .prepare) := by
  constructor
  · rintro ⟨before, since, parts, none, begun⟩
    rcases since.eq_nil_or_concat' with rfl | ⟨since, last, rfl⟩
    · rw [List.append_nil] at parts
      rw [← parts] at begun
      left
      simpa using begun
    · rw [← List.append_assoc] at parts
      obtain ⟨rfl, same⟩ := List.append_inj' parts rfl
      cases same
      rw [List.mem_append, List.mem_singleton, not_or] at none
      have idle : settings.accesses = [] ∨ op ≠ .prepare := none.imp_right fun never => Ne.symm never.2
      exact .inr ⟨⟨before, since, rfl, none.imp_right And.left, begun⟩, idle⟩
  · rintro (rfl | ⟨⟨before, since, rfl, none, begun⟩, idle⟩)
    · exact ⟨ops ++ [.shutDown], [], by simp, .inr List.not_mem_nil, .inl (by simp)⟩
    · refine ⟨before, since ++ [op], List.append_assoc _ _ _, ?_, begun⟩
      by_cases empty : settings.accesses = []
      · exact .inl empty
      · right
        rw [List.mem_append, List.mem_singleton, not_or]
        exact ⟨none.resolve_left empty, (idle.resolve_left empty).symm⟩

theorem connect_ne_notInitialized {registry : Registry} {s : AgentState W}
    (loaded : s.registry = some registry) (t : Target) (params : Yaml.Value) :
    ((cloud.agent settings).connect t params s).answer ≠ .error notInitialized := by
  change (connect t s).answer ≠ _
  simp only [connect, loaded, AgentState.reply, Registry.forTarget]
  split
  · simp [Except.map]
  · intro same
    injection same with same
    injection same with same
    have chars := congrArg String.toList same
    simp [String.toList_append] at chars

variable (cloud settings)

theorem registry_operate_eq_none_iff (origin : Origin W) {ops : List Operation} {s : AgentState W}
    (done : cloud.operate settings origin.state ops = some s) :
    s.registry = none ↔ Unloaded settings origin ops := by
  induction ops using List.reverseRecOn generalizing s with
  | nil =>
    cases done
    constructor
    · intro unloaded
      exact ⟨[], [], rfl, .inr List.not_mem_nil, .inr ⟨rfl, unloaded⟩⟩
    · rintro ⟨before, since, parts, _, shut | ⟨_, unloaded⟩⟩
      · obtain ⟨rfl, rfl⟩ := List.append_eq_nil_iff.1 parts.symm
        simp at shut
      · exact unloaded
  | append_singleton ops op ih =>
    obtain ⟨u, earlier, last⟩ := operate_concat.1 done
    rw [registry_after last, unloaded_concat_iff, ← ih earlier]
    cases op with
    | prepare => by_cases empty : settings.accesses = [] <;> simp [empty]
    | discover | shutDown => simp

/-- After operations that were all done, the agent is idle, ready or has failed, unless the last one was to
look for targets while it was unloaded. When it is ready it is loaded, and no target is refused because it is
not. -/
theorem settled_unless_discovered_unloaded (origin : Origin W) (ops : List Operation) {s : AgentState W}
    (done : cloud.operate settings origin.state ops = some s) :
    (s.status.Settled ∨ s.status = .discovering) ∧
    (¬ s.status.Settled ↔ ∃ earlier, ops = earlier ++ [.discover] ∧ Unloaded settings origin earlier) ∧
    (s.status = .ready → (∃ registry, s.registry = some registry) ∧ ∀ t params,
      ((cloud.agent settings).connect t params s).answer ≠ .error notInitialized) := by
  rcases ops.eq_nil_or_concat' with rfl | ⟨earlier, op, rfl⟩
  · cases done
    cases origin with
    | fresh world => exact ⟨.inl .idle, iff_of_false (fun h => h .idle) (by simp), fun h => nomatch h⟩
    | withRegistry world registry =>
      refine ⟨.inl .ready, iff_of_false (fun h => h .ready) (by simp), fun _ => ⟨⟨registry, rfl⟩, ?_⟩⟩
      exact connect_ne_notInitialized rfl
  · obtain ⟨u, first, last⟩ := operate_concat.1 done
    have before := cloud.registry_operate_eq_none_iff settings origin first
    refine ⟨(settled_after last).imp And.left fun under => under.2.2, ?_, fun ready => ?_⟩
    · constructor
      · intro unsettled
        obtain ⟨rfl, none, _⟩ := (settled_after last).resolve_left fun settled => unsettled settled.1
        exact ⟨earlier, rfl, before.1 none⟩
      · rintro ⟨_, same, unloaded⟩
        obtain ⟨rfl, only⟩ := List.append_inj' same rfl
        cases only
        obtain ⟨_, loaded⟩ | ⟨_, _, under⟩ := settled_after last
        · exact (loaded rfl (before.2 unloaded)).elim
        · rw [under]
          exact AgentStatus.not_settled_discovering
    · obtain ⟨registry, loaded⟩ := Option.ne_none_iff_exists'.1 (loaded_after last ready)
      exact ⟨⟨registry, loaded⟩, connect_ne_notInitialized loaded⟩

def oneAccess : Settings := ⟨[⟨"1", "eu", none⟩], 1, {}⟩

theorem loaded_once_prepared : ∃ s, (Command.offline .epoch).operate oneAccess (Origin.fresh {}).state
      [.discover, .prepare, .discover] = some s ∧ s.status = .ready ∧
    ∃ registry, s.registry = some registry := by
  obtain ⟨s, done, ready⟩ : ∃ s, (Command.offline .epoch).operate oneAccess (Origin.fresh {}).state
      [.discover, .prepare, .discover] = some s ∧ s.status = .ready := ⟨_, rfl, rfl⟩
  obtain ⟨_, _, refused⟩ := settled_unless_discovered_unloaded (Command.offline .epoch) oneAccess
    (.fresh {}) [.discover, .prepare, .discover] done
  exact ⟨s, done, ready, (refused ready).1⟩

/-- A search for targets fails before the agent is prepared, and leaves it as if it went on. -/
theorem left_discovering : ¬ ∀ (W : Type) (cloud : Cloud W) (settings : Settings) (origin : Origin W)
    (ops : List Operation) (s : AgentState W), cloud.operate settings origin.state ops = some s →
      s.status.Settled ∧ (s.status = .ready → ∃ registry, s.registry = some registry) := by
  intro always
  obtain ⟨settled, _⟩ := always _ (Command.offline .epoch) oneAccess (.fresh {}) [.discover] _ rfl
  exact AgentStatus.not_settled_discovering settled

end Cloud

end GameDay
