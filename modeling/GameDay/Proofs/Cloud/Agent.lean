import GameDay.Cloud.Agent
import GameDay.Proofs.Cloud.Plans
import GameDay.Proofs.Experiment.Steps

namespace GameDay.Cloud

variable {W : Type} {cloud : Cloud W} {config : Settings} {agent : Agent (AgentState W) Connection}
  {u v : AgentState W} {registry : Registry} {t : Target} {params : Yaml.Value}

section action

variable {α : Type} {action : Action α} {r : Except Error α}

theorem runAction_of_gives (x : Gives (cloud.agentAct action) u r v) :
    cloud.runAction u.scene action = (r, v.scene) := by
  rw [← x.answer, ← x.world]
  rfl

theorem registry_of_gives (x : Gives (cloud.agentAct action) u r v) : v.registry = u.registry := by
  rw [← x.world]
  rfl

end action

variable (of : agent = cloud.agent config)
include of

theorem disruption_of_skill? {name : String} {skill : Skill (AgentState W) Connection}
    (known : agent.skill? name = some skill) :
    ∃ d ∈ Disruption.all, skill = cloud.skill d ∧ d.descriptor.name = name := by
  have named := Agent.name_of_skill? known
  have mem := List.mem_of_find?_eq_some known
  rw [of] at mem
  obtain ⟨d, hd, rfl⟩ := List.mem_map.1 mem
  exact ⟨d, hd, rfl, named⟩

theorem world_of_connect {r : Except Error Connection} (c : Gives (agent.connect t params) u r v) :
    v = u := by
  rw [of] at c
  rw [← c.world]
  change (connect t u).world = u
  unfold connect
  split <;> rfl

theorem answer_of_connect (loaded : u.registry = some registry) {r : Except Error Connection}
    (c : Gives (agent.connect t params) u r v) :
    r = (registry.forTarget t).map fun _ => some registry := by
  rw [of] at c
  rw [← c.answer]
  change (connect t u).answer = _
  unfold connect
  rw [loaded]
  rfl

theorem shared_of_connect (loaded : u.registry = some registry) {shared : Connection}
    (c : Gives (agent.connect t params) u (.ok shared) v) : shared = some registry := by
  have shares := answer_of_connect of loaded c
  cases found : registry.forTarget t <;> rw [found] at shares <;> cases shares
  rfl

theorem connection_of_connect {e : Error} (c : Gives (agent.connect t params) u (.error e) v) :
    ∃ text, e = .connection text := by
  cases loaded : u.registry with
  | none =>
    rw [of] at c
    have answer := c.answer
    change (connect t u).answer = .error e at answer
    unfold connect at answer
    rw [loaded] at answer
    cases answer
    exact ⟨_, rfl⟩
  | some registry =>
    have answer := answer_of_connect of loaded c
    unfold Registry.forTarget at answer
    split at answer <;> cases answer
    exact ⟨_, rfl⟩

theorem scene_of_prepare {r : Except Error Unit} (p : Gives agent.prepare u r v) :
    v.scene = u.scene := by
  rw [of] at p
  rw [← p.world]
  change (prepare config u).world.scene = u.scene
  unfold prepare
  split <;> rfl

theorem discover_cases {r : Except Error (List Target)} (d : agent.Discovers u r v) :
    (∃ e, r = .error e ∧ v.scene = u.scene) ∨
      ∃ registry targets, u.registry = some registry ∧ v.registry = some registry ∧ r = .ok targets ∧
        Inventory.discover cloud config.poolSize registry.accesses config.discovery.kinds u.scene =
          (some targets, v.scene) := by
  rw [of] at d
  obtain ⟨took, answered⟩ := d
  change cloud.discover config u = _ at answered
  unfold discover at answered
  cases loaded : u.registry with
  | none =>
    simp only [loaded] at answered
    cases answered
    exact .inl ⟨_, rfl, rfl⟩
  | some registry =>
    simp only [loaded] at answered
    split at answered
    · cases answered
      exact .inl ⟨_, rfl, rfl⟩
    · obtain ⟨targets, found, same⟩ := Option.map_eq_some_iff.1 answered
      cases same
      exact .inr ⟨registry, targets, rfl, rfl, rfl, Prod.ext found rfl⟩

end GameDay.Cloud
