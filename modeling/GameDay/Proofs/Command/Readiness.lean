import GameDay.Proofs.Cloud.Agent
import GameDay.Proofs.Command.Outcome

namespace GameDay

open Cloud (AgentState disruption_of_skill? world_of_connect)

namespace Step

def prepared? : Step → Option (Except Error Unit)
  | .prepare answer => some answer
  | _ => none

def discovered? : Step → Option (Except Error (List Target))
  | .discover answer => some answer
  | _ => none

theorem prepared?_silent {step : Step} (h : step.phase? ≠ some .setup) : step.prepared? = none := by
  cases step <;> first | rfl | exact (h rfl).elim

theorem discovered?_silent {step : Step} (h : step.phase? ≠ some .setup) : step.discovered? = none := by
  cases step <;> first | rfl | exact (h rfl).elim

end Step

namespace Session

section keeping

variable {W S : Type} (session : Session W S) {I : W → Prop}

structure Keeping (I : W → Prop) : Prop where
  connect : ∀ t params u, I u → I (session.agent.connect t params u).world
  execute : ∀ name skill, session.agent.skill? name = some skill →
    ∀ ctx u, I u → I (skill.execute ctx u).world
  status : ∀ name skill, session.agent.skill? name = some skill →
    ∀ ctx h u, I u → I (skill.status ctx h u).world
  rollback : ∀ name skill, session.agent.skill? name = some skill →
    ∀ ctx h u, I u → I (skill.rollback ctx h u).world
  sleep : ∀ d u, I u → I (session.agent.sleep d u)

variable {session} {id : Uuid} {u v : W} {a : List Step} {launches : List (Uuid × Launch)}
  (keeping : session.Keeping I)
include keeping

theorem Keeping.connected {t : Target} {params : Yaml.Value} {r : Except Error S}
    (c : Gives (session.agent.connect t params) u r v) (h : I u) : I v := by
  rw [← c.world]
  exact keeping.connect t params u h

theorem Launching.keeps {q : List ExecutionRecord} {m : List (Handle × Launch)}
    (l : session.Launching id u a q m v) (h : I u) : I v := by
  induction l with
  | nil | checked => exact h
  | append _ _ ha hb => exact hb (ha h)
  | unconnected c => exact keeping.connected c h
  | refused _ known c x | started _ known c x =>
    rw [← x.world]
    exact keeping.execute _ _ known _ _ (keeping.connected c h)

theorem Polled.keeps {handle : Handle} {status : SkillStatus}
    (p : session.Polled launches handle u a status v) (h : I u) : I v := by
  cases p with
  | unknown => exact h
  | unconnected _ c => exact keeping.connected c h
  | unanswered known _ c x | answered known _ c x =>
    rw [← x.world]
    exact keeping.status _ _ known _ _ _ (keeping.connected c h)

theorem Polling.keeps {m : List Handle} {f : Option (Handle × String)}
    (p : session.Polling id launches u a m f v) (h : I u) : I v := by
  induction p with
  | nil => exact h
  | append _ _ ha hb => exact hb (ha h)
  | slept d w => exact keeping.sleep d w h
  | running p | completed p | failed p => exact p.keeps keeping h

theorem Waiting.keeps {x : Experiment} {targets : List Target} {began : RunState W} {m : List Handle}
    {f : Option (Handle × String)} {failure : Option String}
    (w : session.Waiting id x targets began launches u a m f failure v) (h : I u) : I v := by
  cases w with
  | skipped => exact h
  | elapsed _ _ p | failed _ _ p => exact p.keeps keeping h

theorem Undoing.keeps {q : List RollbackRecord} {m : List Attempt}
    (d : session.Undoing id launches u a q m v) (h : I u) : I v := by
  induction d with
  | nil => exact h
  | append _ _ ha hb => exact hb (ha h)
  | unconnected _ _ _ c => exact keeping.connected c h
  | answered _ known _ c x =>
    rw [← x.world]
    exact keeping.rollback _ _ known _ _ _ (keeping.connected c h)

theorem Course.keeps {x : Experiment} {now : Instant} {report : Report} {s : RunState W}
    (c : session.Course id x u now report s) (h : I c.found) : I s.world := by
  have launched : I c.launched := c.launches.keeps keeping h
  have waited : I c.waited := c.waits.keeps keeping launched
  exact c.undoes.keeps keeping waited

end keeping

section naming

variable {W S : Type} {session : Session W S} {id : Uuid} {x : Experiment} {world : W} {now : Instant}
  {report : Report} {s : RunState W}

theorem report_of_run (h : session.run id x world now = (.reported report, s)) :
    report.id = id ∧ report.name = x.name := by
  cases run_cases h with
  | goesOn _ _ rest =>
    unfold runOn at rest
    split at rest <;> cases rest
    exact ⟨rfl, rfl⟩

end naming

end Session

namespace Cloud

variable {W : Type} {cloud : Cloud W} {config : Settings} {u : AgentState W}

structure Equipped (config : Settings) (u : AgentState W) : Prop where
  ready : u.status = .ready
  loaded : u.registry = some config.registry

theorem Settings.isEmpty_registry (config : Settings) : config.registry.isEmpty = config.accesses.isEmpty := by
  cases h : config.accesses <;> simp [Registry.isEmpty, registry, h]

theorem keeping_equipped {session : Session (AgentState W) Connection}
    (of : session.agent = cloud.agent config) : session.Keeping (Equipped config) := by
  constructor
  · intro t params u h
    rw [world_of_connect of ⟨rfl, rfl⟩]
    exact h
  · intro name skill known ctx u h
    obtain ⟨d, _, rfl, _⟩ := disruption_of_skill? of known
    exact ⟨h.ready, h.loaded⟩
  · intro name skill known ctx handle u h
    obtain ⟨d, _, rfl, _⟩ := disruption_of_skill? of known
    exact ⟨h.ready, h.loaded⟩
  · intro name skill known ctx handle u h
    obtain ⟨d, _, rfl, _⟩ := disruption_of_skill? of known
    exact ⟨h.ready, h.loaded⟩
  · intro d u h
    rw [of]
    exact ⟨h.ready, h.loaded⟩

theorem prepare_of_accesses (accesses : config.accesses ≠ []) (u : AgentState W) :
    (prepare config u).answer = .ok () ∧ Equipped config (prepare config u).world := by
  unfold prepare
  rw [if_neg accesses]
  exact ⟨rfl, rfl, rfl⟩

theorem discovers_of_equipped (accesses : config.accesses ≠ []) (h : Equipped config u)
    {r : Except Error (List Target)} {v : AgentState W} (d : (cloud.agent config).Discovers u r v) :
    (∃ targets, r = .ok targets) ∧ Equipped config v := by
  obtain ⟨took, answered⟩ := d
  change cloud.discover config u = _ at answered
  have some : ¬ config.registry.isEmpty = true := by
    rw [Settings.isEmpty_registry, List.isEmpty_iff]
    exact accesses
  unfold discover at answered
  simp only [h.loaded, if_neg some] at answered
  obtain ⟨targets, _, same⟩ := Option.map_eq_some_iff.1 answered
  cases same
  exact ⟨⟨targets, rfl⟩, rfl, rfl⟩

theorem prepare_of_no_accesses (none : config.accesses = []) (u : AgentState W) :
    (prepare config u).answer = .error (.config "No AWS accesses configured") ∧
      (prepare config u).world.scene = u.scene ∧ (prepare config u).world.status ≠ .ready := by
  unfold prepare
  rw [if_pos none]
  exact ⟨rfl, rfl, by simp [AgentState.reply]⟩

end Cloud

namespace Session

open Cloud (Equipped discovers_of_equipped keeping_equipped prepare_of_accesses prepare_of_no_accesses)

variable {W : Type} {cloud : Cloud W} {config : Cloud.Settings}
  {session : Session (AgentState W) Connection} {id : Uuid} {x : Experiment} {u v : AgentState W}
  {now : Instant} {ending : RunEnd} {s : RunState (AgentState W)}

/-- A run has come to a report. It has looked for targets once, and got the agent ready as often as told. -/
structure Delivered (id : Uuid) (x : Experiment) (prepares : List (Except Error Unit)) (ending : RunEnd)
    (steps : List Step) : Prop where
  reported : ∃ report, ending = .reported report ∧ report.id = id ∧ report.name = x.name
  prepares : steps.filterMap Step.prepared? = prepares
  discovers : ∃ targets, steps.filterMap Step.discovered? = [.ok targets]

variable (of : session.agent = cloud.agent config) (accesses : config.accesses ≠ [])
  (fit : u.status = .ready → Equipped config u)
include of accesses fit

theorem Refusing.false {a : List Step} {e : Error} (h : session.Refusing u a e v) : False := by
  have prepared {r : Except Error Unit} {w : AgentState W} (p : Gives session.agent.prepare u r w) :
      r = .ok () ∧ Equipped config w := by
    rw [of] at p
    rw [← p.answer, ← p.world]
    exact prepare_of_accesses accesses u
  have discovered {w w' : AgentState W} (equipped : Equipped config w)
      (d : session.agent.Discovers w (.error e) w') : False := by
    rw [of] at d
    obtain ⟨targets, answer⟩ := (discovers_of_equipped accesses equipped d).1
    cases answer
  cases h with
  | unready _ p => cases (prepared p).1
  | ready ready d =>
    rw [of] at ready
    exact discovered (fit ready) d
  | prepared _ p d => exact discovered (prepared p).2 d

theorem Preparing.equipped {a : List Step} {targets : List Target} (h : session.Preparing u a targets v) :
    Equipped config v ∧ a.filterMap Step.prepared? = (if u.status = .ready then [] else [.ok ()]) ∧
      a.filterMap Step.discovered? = [.ok targets] := by
  have discovered {w w' : AgentState W} (equipped : Equipped config w)
      (d : session.agent.Discovers w (.ok targets) w') : Equipped config w' := by
    rw [of] at d
    exact (discovers_of_equipped accesses equipped d).2
  cases h with
  | ready ready d =>
    rw [of] at ready
    change u.status = .ready at ready
    refine ⟨discovered (fit ready) d, ?_, rfl⟩
    rw [if_pos ready]
    rfl
  | prepared unready p d =>
    rw [of] at unready p
    change u.status ≠ .ready at unready
    have equipped : Equipped config ((cloud.agent config).prepare u).world := (prepare_of_accesses accesses u).2
    rw [p.world] at equipped
    refine ⟨discovered equipped d, ?_, rfl⟩
    rw [if_neg unready]
    rfl

theorem delivered_of_run (h : session.run id x u now = (ending, s))
    (found : ∀ a v, ¬ session.Searching u a v) (counted : ending ≠ .aborted .clockOverflow) :
    Delivered id x (if u.status = .ready then [] else [.ok ()]) ending s.steps ∧ Equipped config s.world := by
  rcases ending with report | e | why
  · obtain ⟨c⟩ := run_course h
    obtain ⟨equipped, prepares, discovers⟩ := c.prepares.equipped of accesses fit
    have setup {α : Type} {f : Step → Option α} (silent : ∀ step, step.phase? ≠ some .setup → f step = none) :
        s.steps.filterMap f = c.preparing.filterMap f := c.filterMap_part .setup silent
    refine ⟨⟨⟨report, rfl, report_of_run h⟩, ?_, c.targets, ?_⟩, c.keeps (keeping_equipped of) equipped⟩
    · rw [setup fun _ => Step.prepared?_silent, prepares]
    · rw [setup fun _ => Step.discovered?_silent, discovers]
  · obtain ⟨a, refusing, _⟩ := refusing_of_run h
    exact (refusing.false of accesses fit).elim
  · cases why with
    | clockOverflow => exact (counted rfl).elim
    | endless =>
      obtain ⟨a, searching, _⟩ := searching_of_run h
      exact (found a _ searching).elim

omit accesses fit

theorem run_of_no_accesses (none : config.accesses = []) (unready : u.status ≠ .ready)
    (h : session.run id x u now = (ending, s)) :
    ending = .refused (.config "No AWS accesses configured") ∧ s.world.scene = u.scene ∧
      s.world.status ≠ .ready := by
  obtain ⟨answer, scene, status⟩ := prepare_of_no_accesses none u
  have unequipped : session.agent.status u ≠ .ready := by
    rw [of]
    exact unready
  have gives : Gives session.agent.prepare u (.error (.config "No AWS accesses configured"))
      (Cloud.prepare config u).world := by
    rw [of]
    exact ⟨answer, rfl⟩
  have refused : (session.run id x u now).1 = _ := refused_of_prepare unequipped gives
  rw [h] at refused
  cases refused
  obtain ⟨a, refusing, _⟩ := refusing_of_run h
  cases refusing with
  | unready _ p =>
    rw [← p.world, gives.world]
    exact ⟨rfl, scene, status⟩
  | ready ready _ => exact (unequipped ready).elim
  | prepared _ p _ => cases p.answer.symm.trans gives.answer

end Session

end GameDay
