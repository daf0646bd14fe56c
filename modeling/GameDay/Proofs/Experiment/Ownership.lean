import GameDay.Proofs.Cloud.Agent
import GameDay.Proofs.Disruption.Handles
import GameDay.Proofs.Experiment.Reversal

namespace GameDay

open Cloud (AgentState FreshIds disruption_of_skill? runAction_of_gives world_of_connect)

namespace Session

variable {W : Type} {cloud : Cloud W} {config : Cloud.Settings}
  {session : Session (AgentState W) Connection} {id : Uuid} {u v w : AgentState W} {a : List Step}
  {q : List ExecutionRecord} {m n : List (Handle × Launch)}

structure Issues (ids : FreshIds cloud) (u v : AgentState W) (m : List (Handle × Launch)) :
    Prop where
  kept : ∀ i, ids.issued u.scene.world i → ids.issued v.scene.world i
  unused : ∀ e ∈ m, ¬ ids.issued u.scene.world e.1.id
  used : ∀ e ∈ m, ids.issued v.scene.world e.1.id
  distinct : (m.map fun e => e.1.id).Nodup

variable {ids : FreshIds cloud}

theorem Issues.none (kept : ∀ i, ids.issued u.scene.world i → ids.issued v.scene.world i) :
    Issues ids u v [] :=
  ⟨kept, by simp, by simp, by simp⟩

theorem Issues.append (first : Issues ids u v m) (second : Issues ids v w n) :
    Issues ids u w (m ++ n) := by
  constructor
  · intro i hi
    exact second.kept i (first.kept i hi)
  · intro e he
    rcases List.mem_append.1 he with he | he
    · exact first.unused e he
    · exact fun hi => second.unused e he (first.kept _ hi)
  · intro e he
    rcases List.mem_append.1 he with he | he
    · exact second.kept _ (first.used e he)
    · exact second.used e he
  · rw [List.map_append, List.nodup_append]
    refine ⟨first.distinct, second.distinct, ?_⟩
    intro i hi j hj hij
    obtain ⟨e, he, rfl⟩ := List.mem_map.1 hi
    obtain ⟨e', he', rfl⟩ := List.mem_map.1 hj
    apply second.unused e' he'
    rw [← hij]
    exact first.used e he

theorem Launching.issues (of : session.agent = cloud.agent config) (ids : FreshIds cloud)
    (h : session.Launching id u a q m v) : Issues ids u v m := by
  induction h with
  | nil | checked => exact .none fun i hi => hi
  | append _ _ ha hb => exact ha.append hb
  | unconnected c =>
    apply Issues.none
    rw [world_of_connect of c]
    exact fun i hi => hi
  | refused _ known c x =>
    obtain ⟨d, _, rfl, _⟩ := disruption_of_skill? of known
    have ran := runAction_of_gives x
    rw [world_of_connect of c] at ran
    exact .none fun i hi => ids.action_keeps ran hi
  | started _ known c x =>
    obtain ⟨d, hd, rfl, _⟩ := disruption_of_skill? of known
    have ran := runAction_of_gives x
    rw [world_of_connect of c] at ran
    obtain ⟨_, unused, used⟩ := (Disruption.starts_execute hd _).spec ids ran
    exact ⟨fun i hi => ids.action_keeps ran hi, by simpa using unused, by simpa using used, by simp⟩

theorem Launching.named (of : session.agent = cloud.agent config) (ids : FreshIds cloud)
    (h : session.Launching id u a q m v) {name : String} {t : Target} {params : Yaml.Value}
    {handle : Handle} (mem : Step.execute name t params (.ok handle) ∈ a) : handle.skill = name := by
  induction h with
  | nil => cases mem
  | append _ _ ha hb => exact (List.mem_append.1 mem).elim ha hb
  | checked | unconnected | refused => simp [announcement] at mem
  | started _ known c x =>
    obtain ⟨d, hd, rfl, _⟩ := disruption_of_skill? of known
    obtain ⟨named, _⟩ := (Disruption.starts_execute hd _).spec ids (runAction_of_gives x)
    simp [announcement] at mem
    rw [mem.1, mem.2.2.2]
    exact named

theorem Course.ownHandles {x : Experiment} {now : Instant} {report : Report}
    {s : RunState (AgentState W)} (of : session.agent = cloud.agent config) (ids : FreshIds cloud)
    (c : session.Course id x u now report s) : OwnHandles s.steps := by
  constructor
  · intro name t params h mem
    exact c.launches.named of ids (c.mem_part mem rfl)
  · rw [c.started_eq]
    exact (c.launches.issues of ids).distinct

end Session

end GameDay
