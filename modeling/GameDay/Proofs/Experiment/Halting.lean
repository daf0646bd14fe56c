import GameDay.Proofs.Disruption.TemplateRuns
import GameDay.Proofs.Experiment.Ownership

namespace GameDay

open Cloud (AgentState Exchange FreshIds Transcript answer_of_connect discover_cases disruption_of_skill?
  registry_of_gives runAction_of_gives scene_of_prepare shared_of_connect world_of_connect)
open Disruption (Halts Idle experiment? templateRunName)

namespace Session

variable {W : Type} {cloud : Cloud W} {config : Cloud.Settings}
  {session : Session (AgentState W) Connection} {id : Uuid} {u v w : AgentState W} {a : List Step}

def runOf? (registry : Registry) (e : Handle × Launch) : Option (Access × String) :=
  if e.1.skill = templateRunName then experiment? ⟨some registry, e.2.target, e.2.params⟩ e.1 else none

theorem filterMap_runOf? (registry : Registry) (e : Handle × Launch) :
    [e].filterMap (runOf? registry) = (runOf? registry e).toList := by
  cases run : runOf? registry e with
  | none => rw [List.filterMap_cons_none run]; rfl
  | some r => rw [List.filterMap_cons_some run]; rfl

structure Goes (t : Transcript cloud) (u v : AgentState W) (more : List Exchange) : Prop where
  registry : v.registry = u.registry
  between : t.Between u.scene.world v.scene.world more

variable {t : Transcript cloud} {b c : List Exchange} {registry : Registry}

theorem Goes.refl (u : AgentState W) : Goes t u u [] := ⟨rfl, .refl _⟩

theorem Goes.trans (first : Goes t u v b) (second : Goes t v w c) : Goes t u w (b ++ c) :=
  ⟨second.registry.trans first.registry, first.between.trans second.between⟩

theorem goes_of_gives {α : Type} {action : Cloud.Action α} {r : Except Error α}
    (x : Gives (cloud.agentAct action) u r v) {more : List Exchange}
    (between : t.Between u.scene.world v.scene.world more) : Goes t u v more :=
  ⟨registry_of_gives x, between⟩

theorem Preparing.goes (of : session.agent = cloud.agent config) {targets : List Target}
    (h : session.Preparing u a targets v) (t : Transcript cloud) :
    ∃ more, t.Between u.scene.world v.scene.world more ∧ Idle more ∧ v.registry.isSome := by
  have discovers {u v : AgentState W} (d : session.agent.Discovers u (.ok targets) v) :
      ∃ more, t.Between u.scene.world v.scene.world more ∧ Idle more ∧ v.registry.isSome := by
    obtain ⟨e, failed, _⟩ | ⟨registry, _, _, loaded, _, found⟩ := discover_cases of d
    · cases failed
    · obtain ⟨more, between, lists⟩ := t.between_discover config.poolSize registry.accesses
        config.discovery.kinds u.scene
      rw [found] at between
      exact ⟨more, between, .of_silent (.of_listing lists), by simp [loaded]⟩
  cases h with
  | ready _ d => exact discovers d
  | prepared _ p d =>
    rw [← scene_of_prepare of p]
    exact discovers d

theorem Launching.obtains (of : session.agent = cloud.agent config) (ids : FreshIds cloud)
    (t : Transcript cloud) {q : List ExecutionRecord} {m : List (Handle × Launch)}
    (h : session.Launching id u a q m v) (loaded : u.registry = some registry) :
    ∃ more, Goes t u v more ∧ more.filterMap Exchange.stop? = [] ∧
      more.filterMap Exchange.obtained? = m.filterMap (runOf? registry) := by
  induction h with
  | nil | checked => exact ⟨[], .refl _, rfl, rfl⟩
  | append _ _ ha hb =>
    obtain ⟨b, first, stops, obtained⟩ := ha loaded
    obtain ⟨c, second, stops', obtained'⟩ := hb (first.registry.trans loaded)
    refine ⟨b ++ c, first.trans second, ?_, ?_⟩
    · rw [List.filterMap_append, stops, stops', List.append_nil]
    · rw [List.filterMap_append, List.filterMap_append, obtained, obtained']
  | unconnected c =>
    cases world_of_connect of c
    exact ⟨[], .refl _, rfl, rfl⟩
  | refused _ known c x =>
    cases world_of_connect of c
    obtain ⟨d, hd, rfl, _⟩ := disruption_of_skill? of known
    obtain ⟨more, between, stops, run, other⟩ :=
      Disruption.execute_obtains t hd (runAction_of_gives x)
    refine ⟨more, goes_of_gives x between, stops, ?_⟩
    by_cases runs : d.descriptor.name = templateRunName
    · exact run runs
    · exact other runs
  | @started u v w inv skill target shared handle _ known c x =>
    cases world_of_connect of c
    cases shared_of_connect of loaded c
    obtain ⟨d, hd, rfl, _⟩ := disruption_of_skill? of known
    have ran := runAction_of_gives x
    obtain ⟨named, _⟩ := (Disruption.starts_execute hd _).spec ids ran
    obtain ⟨more, between, stops, run, other⟩ := Disruption.execute_obtains t hd ran
    refine ⟨more, goes_of_gives x between, stops, ?_⟩
    rw [filterMap_runOf?, runOf?, named]
    by_cases runs : d.descriptor.name = templateRunName
    · rw [if_pos runs]
      exact run runs
    · rw [if_neg runs]
      exact other runs

variable {launches : List (Uuid × Launch)}

theorem Polled.idles (of : session.agent = cloud.agent config) (t : Transcript cloud) {h : Handle}
    {status : SkillStatus} (p : session.Polled launches h u a status v) :
    ∃ more, Goes t u v more ∧ Idle more := by
  cases p with
  | unknown => exact ⟨[], .refl _, .nil⟩
  | unconnected _ c =>
    cases world_of_connect of c
    exact ⟨[], .refl _, .nil⟩
  | unanswered known _ c x | answered known _ c x =>
    cases world_of_connect of c
    obtain ⟨d, hd, rfl, _⟩ := disruption_of_skill? of known
    obtain ⟨more, between, idle⟩ := Disruption.status_idle t hd (runAction_of_gives x)
    exact ⟨more, goes_of_gives x between, idle⟩

theorem Polling.idles (of : session.agent = cloud.agent config) (t : Transcript cloud) {m : List Handle}
    {f : Option (Handle × String)} (h : session.Polling id launches u a m f v) :
    ∃ more, Goes t u v more ∧ Idle more := by
  induction h with
  | nil => exact ⟨[], .refl _, .nil⟩
  | append _ _ ha hb =>
    obtain ⟨b, first, idle⟩ := ha
    obtain ⟨c, second, idle'⟩ := hb
    exact ⟨b ++ c, first.trans second, idle.append idle'⟩
  | slept d w =>
    refine ⟨[], ⟨?_, ?_⟩, .nil⟩
    · rw [of]
      rfl
    · rw [of, Transcript.Between, List.append_nil]
      exact t.sleep d w.scene.world
  | running p | completed p | failed p => exact p.idles of t

theorem Waiting.idles (of : session.agent = cloud.agent config) (t : Transcript cloud) {x : Experiment}
    {targets : List Target} {began : RunState (AgentState W)} {m : List Handle}
    {f : Option (Handle × String)} {failure : Option String}
    (h : session.Waiting id x targets began launches u a m f failure v) :
    ∃ more, Goes t u v more ∧ Idle more := by
  cases h with
  | skipped => exact ⟨[], .refl _, .nil⟩
  | elapsed _ _ p | failed _ _ p => exact p.idles of t

theorem Undoing.halts (of : session.agent = cloud.agent config) (t : Transcript cloud)
    {q : List RollbackRecord} {n : List Attempt} (h : session.Undoing id launches u a q n v)
    (loaded : u.registry = some registry) :
    ∃ more, Goes t u v more ∧ more.filterMap Exchange.obtained? = [] ∧
      Halts ((n.map Attempt.aim).filterMap (runOf? registry)) more := by
  induction h with
  | nil => exact ⟨[], .refl _, rfl, .nil⟩
  | append _ _ ha hb =>
    obtain ⟨b, first, none, halts⟩ := ha loaded
    obtain ⟨c, second, none', halts'⟩ := hb (first.registry.trans loaded)
    refine ⟨b ++ c, first.trans second, ?_, ?_⟩
    · rw [List.filterMap_append, none, none', List.append_nil]
    · rw [List.map_append, List.filterMap_append]
      exact halts.append halts'
  | @unconnected u v skill h l e _ _ _ c =>
    -- There is no access to the target then, so nothing can have been obtained through it.
    have failed := answer_of_connect of loaded c
    cases world_of_connect of c
    refine ⟨[], .refl _, rfl, ?_⟩
    have lost : runOf? registry (Attempt.aim ⟨h, l, .error e⟩) = none := by
      have unreached : ∃ e', Disruption.accessOf ⟨some registry, l.target, l.params⟩ = .error e' := by
        change ∃ e', registry.forTarget l.target = .error e'
        cases found : registry.forTarget l.target with
        | ok a =>
          rw [found] at failed
          cases failed
        | error e' => exact ⟨e', rfl⟩
      obtain ⟨e', unreached⟩ := unreached
      unfold runOf? experiment? Attempt.aim
      rw [unreached]
      split <;> rfl
    rw [List.map_singleton, filterMap_runOf?, lost]
    exact .nil
  | @answered u v w skill h l shared answer _ known _ c x =>
    cases world_of_connect of c
    cases shared_of_connect of loaded c
    obtain ⟨d, hd, rfl, named⟩ := disruption_of_skill? of known
    obtain ⟨more, between, obtained, run, other⟩ :=
      Disruption.rollback_halts t hd (runAction_of_gives x)
    refine ⟨more, goes_of_gives x between, obtained, ?_⟩
    rw [List.map_singleton, filterMap_runOf?]
    by_cases runs : d.descriptor.name = templateRunName
    · have aimed : runOf? registry (Attempt.aim ⟨h, l, answer⟩) =
          experiment? ⟨some registry, l.target, l.params⟩ h := if_pos (named.symm.trans runs)
      rw [aimed]
      exact run runs
    · have missed : runOf? registry (Attempt.aim ⟨h, l, answer⟩) = none :=
        if_neg (named.symm.trans_ne runs)
      rw [missed]
      exact other runs

theorem Refusing.idles (of : session.agent = cloud.agent config) {e : Error}
    (h : session.Refusing u a e v) (t : Transcript cloud) : t.Between u.scene.world v.scene.world [] := by
  have discovers {u v : AgentState W} (d : session.agent.Discovers u (.error e) v) :
      v.scene = u.scene := by
    obtain ⟨_, _, same⟩ | ⟨_, _, _, _, found, _⟩ := discover_cases of d
    · exact same
    · cases found
  have same : v.scene = u.scene := by
    cases h with
    | unready _ p => exact scene_of_prepare of p
    | ready _ d => exact discovers d
    | prepared _ p d => exact (discovers d).trans (scene_of_prepare of p)
  rw [same]
  exact .refl _

theorem Searching.idles (of : session.agent = cloud.agent config) (h : session.Searching u a v)
    (t : Transcript cloud) : t.Between u.scene.world v.scene.world [] := by
  cases h with
  | ready => exact .refl _
  | prepared _ p =>
    rw [scene_of_prepare of p]
    exact .refl _

structure Halted (t : Transcript cloud) (u v w : AgentState W) (prior undoing : List Exchange) : Prop where
  before : t.Between u.scene.world v.scene.world prior
  after : t.Between v.scene.world w.scene.world undoing
  spared : prior.filterMap Exchange.stop? = []
  single : undoing.filterMap Exchange.obtained? = []
  halts : Halts (prior.filterMap Exchange.obtained?).reverse undoing

theorem Course.halted (of : session.agent = cloud.agent config) (ids : FreshIds cloud)
    (t : Transcript cloud) {x : Experiment} {now : Instant} {report : Report}
    {s : RunState (AgentState W)} (c : session.Course id x u now report s) :
    ∃ prior undoing, Halted t u c.waited s.world prior undoing := by
  obtain ⟨first, preparing, idle, given⟩ := c.prepares.goes of t
  obtain ⟨registry, loaded⟩ := Option.isSome_iff_exists.1 given
  obtain ⟨second, launching, spared, obtained⟩ := c.launches.obtains of ids t loaded
  obtain ⟨third, waiting, idle'⟩ := c.waits.idles of t
  have kept : c.waited.registry = some registry :=
    (waiting.registry.trans launching.registry).trans loaded
  obtain ⟨undoing, undoes, single, halts⟩ := c.undoes.halts of t kept
  -- Experiments are obtained while launching only, in the order in which actions were started.
  have runs : (first ++ (second ++ third)).filterMap Exchange.obtained? =
      c.started.filterMap (runOf? registry) := by
    rw [List.filterMap_append, List.filterMap_append, idle.obtained, obtained, idle'.obtained,
      List.append_nil, List.nil_append]
  refine ⟨first ++ (second ++ third), undoing, ?_⟩
  constructor
  · exact preparing.trans (launching.between.trans waiting.between)
  · exact undoes.between
  · rw [List.filterMap_append, List.filterMap_append, idle.stops, spared, idle'.stops]
    rfl
  · exact single
  · rw [c.attempts_eq (c.ownHandles of ids), List.filterMap_reverse, ← runs] at halts
    exact halts

/-- A run that finds its targets looks at each experiment that was obtained in it while it undoes all, once
and through the same access, and stops those that this shows to be going on, and no others. -/
theorem obtained_halted_if_seen (of : session.agent = cloud.agent config) (ids : FreshIds cloud)
    (t : Transcript cloud) {x : Experiment} {now : Instant} {ending : RunEnd}
    {s : RunState (AgentState W)} (h : session.run id x u now = (ending, s))
    (counted : ending ≠ .aborted .clockOverflow) :
    (((∃ e, ending = .refused e) ∨ ending = .aborted .endless ∧ ∃ a, session.Searching u a s.world) ∧
        t.Between u.scene.world s.world.scene.world []) ∨
      ∃ report, ∃ c : session.Course id x u now report s, ending = .reported report ∧
        ∃ prior undoing, Halted t u c.waited s.world prior undoing := by
  cases ending with
  | reported report =>
    obtain ⟨c⟩ := run_course h
    exact .inr ⟨report, c, rfl, c.halted of ids t⟩
  | refused e =>
    obtain ⟨a, refusing, _⟩ := refusing_of_run h
    exact .inl ⟨.inl ⟨e, rfl⟩, refusing.idles of t⟩
  | aborted why =>
    cases why with
    | clockOverflow => exact (counted rfl).elim
    | endless =>
      obtain ⟨a, searching, _⟩ := searching_of_run h
      exact .inl ⟨.inr ⟨rfl, a, searching⟩, searching.idles of t⟩

end Session

/-- Two templates can be started, and whoever looks at the first experiment is turned away. -/
def throttled : Cloud Nat where
  send _ request w := match request, w with
    | .listTemplates _, w => (.ok { items := [{ id := some "A" }, { id := some "B" }] }, w)
    | .startExperiment template _, w => (.ok (some ("EXP" ++ template)), w)
    | .getExperiment id, w =>
      if id = "EXPA" then (.error ⟨some "ThrottlingException", "Rate exceeded"⟩, w)
      else (.ok { status := some "running" }, w)
    | .stopExperiment _, w => (.ok (), w)
    | _, w => (.error ⟨none, "denied"⟩, w)
  unsent := ⟨none, "unsent"⟩
  calendar _ := .epoch
  clock _ := .zero
  freshId w := (⟨w⟩, w + 1)
  sleep _ w := w
  turns w := ([], w)
  pageLimit := 1

namespace throttled

def ids : FreshIds throttled.transcribed where
  issued w i := i.value < w.1
  fresh w := Nat.lt_irrefl w.1
  new w := Nat.lt_succ_self w.1
  freshId h := Nat.lt_succ_of_lt h
  send {i a request w} h := by
    change i.value < (throttled.send a request w.1).2
    cases request <;> first | exact h | (simp only [throttled]; split <;> exact h)

def session : Session (AgentState (Nat × List Exchange)) Connection where
  agent := throttled.transcribed.agent ⟨[⟨"1", "eu", none⟩], 1, ⟨false, false, false, true⟩⟩
  settings := .standard
  listeners := 0

def both : Experiment where
  name := "both"
  skills := [⟨"aws.fis.run_experiment", ⟨.template, .empty⟩, .null, 2⟩]
  duration := rehearsalTime

def begun : AgentState (Nat × List Exchange) := { scene := { world := (0, []) } }

theorem both_halted_if_seen : ∃ report s, session.run ⟨7⟩ both begun .zero = (.reported report, s) ∧
    ∃ c : session.Course ⟨7⟩ both begun .zero report s, ∃ prior undoing,
      Session.Halted throttled.transcript begun c.waited s.world prior undoing := by
  obtain ⟨report, reported⟩ : ∃ report, (session.run ⟨7⟩ both begun .zero).1 = .reported report :=
    ⟨_, by rfl⟩
  have run : session.run ⟨7⟩ both begun .zero =
    (.reported report, (session.run ⟨7⟩ both begun .zero).2) := by rw [← reported]
  obtain ⟨⟨e, refused⟩ | ⟨endless, _⟩, _⟩ | ⟨report', c, same, halted⟩ :=
    Session.obtained_halted_if_seen rfl ids throttled.transcript run (by simp)
  · cases refused
  · cases endless
  · cases same
    exact ⟨report, _, run, c, halted⟩

theorem first_left_running :
    (∃ report, (session.run ⟨7⟩ both begun .zero).1 = .reported report) ∧
      let exchanges := (session.run ⟨7⟩ both begun .zero).2.world.scene.world.2
      let a : Access := ⟨0, "1", "eu", none⟩
      exchanges.filterMap Exchange.obtained? = [(a, "EXPA"), (a, "EXPB")] ∧
        exchanges.filterMap Exchange.stop? = [(a, "EXPB")] ∧
        (exchanges.filterMap Exchange.look?).map (fun l => (l.2.1, l.2.2.toOption.map (·.status))) =
          [("EXPA", none), ("EXPB", some (some "running")), ("EXPA", none),
            ("EXPB", some (some "running")), ("EXPB", some (some "running")), ("EXPA", none)] := by
  refine ⟨⟨_, by rfl⟩, ?_, ?_, ?_⟩
  all_goals rfl

end throttled

end GameDay
