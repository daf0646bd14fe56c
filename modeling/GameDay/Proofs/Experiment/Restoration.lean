import GameDay.Proofs.Disruption.Injection
import GameDay.Proofs.Experiment.Ownership

namespace GameDay

open Cloud (AgentState FreshIds ParameterStore Place discover_cases disruption_of_skill? failureParameter?
  runAction_of_gives scene_of_prepare world_of_connect)
open Disruption (FailureSettings.skillName Injected SetTo)

def injectedAt (e : Handle × Launch) : Option Place :=
  if e.1.skill = FailureSettings.skillName then failureParameter? e.2.target else none

structure Restored (steps : List Step) (before after : Place → Option String) : Prop where
  untouched : ∀ κ, (∀ e ∈ steps.filterMap Step.started?, injectedAt e ≠ some κ) → after κ = before κ
  restored : ∀ κ e, (steps.filterMap Step.started?).find? (injectedAt · = some κ) = some e →
    ⟨e.1, e.2, .ok ()⟩ ∈ steps.filterMap Step.undoEnded? → after κ = before κ
  whole : (∀ a ∈ steps.filterMap Step.undoEnded?,
    a.handle.skill = FailureSettings.skillName → a.answer = .ok ()) → after = before

namespace Session

variable {W : Type} {cloud : Cloud W} {config : Cloud.Settings}
  {session : Session (AgentState W) Connection} {id : Uuid} {u v w : AgentState W} {a : List Step}
  {store : ParameterStore cloud} {launches : List (Uuid × Launch)}

def parameters (store : ParameterStore cloud) (u : AgentState W) : Place → Option String :=
  store.value u.scene.world

theorem parameters_connect (of : session.agent = cloud.agent config) {t : Target}
    {params : Yaml.Value} {r : Except Error Connection}
    (c : Gives (session.agent.connect t params) u r v) : parameters store v = parameters store u := by
  rw [world_of_connect of c]

def Keeps (before : Place → Option String) (κ : Place) (e : Handle × Launch) : Prop :=
  e.1.undo = Injected.toValue ⟨κ.name, before κ⟩

/-- What has become of a parameter by the started actions: it is as before, or the first injection
keeps how it was. -/
def Kept (before after : Place → Option String) (m : List (Handle × Launch)) (κ : Place) : Prop :=
  match m.find? (injectedAt · = some κ) with
  | none => after κ = before κ
  | some e => Keeps before κ e

/-- What has become of a parameter by the attempts to undo: it is as before, or as the last of its
injections that was undone had kept it, if that was successful. -/
def UndoneTo (before after : Place → Option String) (n : List Attempt) (κ : Place) : Prop :=
  match n.reverse.find? (fun a => injectedAt a.aim = some κ) with
  | none => after κ = before κ
  | some a => a.answer = .ok () →
    ∀ previous, a.handle.undo = Injected.toValue ⟨κ.name, previous⟩ → after κ = previous

theorem Kept.append {before between after : Place → Option String} {m n : List (Handle × Launch)}
    {κ : Place} (first : Kept before between m κ) (second : Kept between after n κ) :
    Kept before after (m ++ n) κ := by
  unfold Kept at *
  rw [List.find?_append]
  cases hm : m.find? (injectedAt · = some κ) with
  | some e =>
    rw [hm] at first
    exact first
  | none =>
    rw [hm] at first
    -- The first part did not inject: what the second keeps is how the parameter was before both.
    simp only at first
    cases hn : n.find? (injectedAt · = some κ) with
    | some e =>
      rw [hn] at second
      simp only [Option.none_or, Keeps] at second ⊢
      rw [second, first]
    | none =>
      rw [hn] at second
      exact second.trans first

theorem UndoneTo.append {before between after : Place → Option String} {m n : List Attempt}
    {κ : Place} (first : UndoneTo before between m κ) (second : UndoneTo between after n κ) :
    UndoneTo before after (m ++ n) κ := by
  unfold UndoneTo at *
  rw [List.reverse_append, List.find?_append]
  cases hn : n.reverse.find? (fun a => injectedAt a.aim = some κ) with
  | some a =>
    rw [hn] at second
    exact second
  | none =>
    rw [hn] at second
    simp only [Option.none_or] at second ⊢
    rw [second]
    exact first

theorem Kept.of_eq {before after : Place → Option String} {κ : Place} (same : after = before) :
    Kept before after [] κ := by
  rw [same]
  rfl

theorem injectedAt_eq_some {e : Handle × Launch} {κ : Place} :
    injectedAt e = some κ ↔
      e.1.skill = FailureSettings.skillName ∧ failureParameter? e.2.target = some κ := by
  unfold injectedAt
  split <;> simp [*]

theorem injectedAt_of_ne {e : Handle × Launch} (other : e.1.skill ≠ FailureSettings.skillName) :
    injectedAt e = none :=
  if_neg other

theorem Launching.kept (of : session.agent = cloud.agent config) (ids : FreshIds cloud)
    {q : List ExecutionRecord} {m : List (Handle × Launch)} (h : session.Launching id u a q m v)
    (κ : Place) : Kept (parameters store u) (parameters store v) m κ := by
  induction h with
  | nil | checked => exact .of_eq rfl
  | append _ _ ha hb => exact ha.append hb
  | unconnected c => exact .of_eq (parameters_connect of c)
  | refused _ known c x =>
    obtain ⟨d, hd, rfl, _⟩ := disruption_of_skill? of known
    have ran := runAction_of_gives x
    apply Kept.of_eq
    rw [← parameters_connect of c]
    by_cases injects : d.descriptor.name = FailureSettings.skillName
    · cases Disruption.eq_injection hd injects
      exact Disruption.inject_error store ran
    · exact store.action_keeps (Disruption.execute_leaves hd injects _) ran
  | @started u v w inv skill t shared handle _ known c x =>
    obtain ⟨d, hd, rfl, _⟩ := disruption_of_skill? of known
    have ran := runAction_of_gives x
    obtain ⟨named, _⟩ := (Disruption.starts_execute hd _).spec ids ran
    rw [← parameters_connect of c]
    unfold Kept
    by_cases injects : d.descriptor.name = FailureSettings.skillName
    · cases Disruption.eq_injection hd injects
      obtain ⟨κ', aimed, undo, settings, _, put⟩ := Disruption.inject_ok store ran
      have at_ : injectedAt (handle, ⟨t, inv.params⟩) = some κ' :=
        injectedAt_eq_some.2 ⟨named, aimed⟩
      by_cases same : κ' = κ
      · subst same
        simpa [at_, Keeps, parameters] using undo
      · rw [List.find?_singleton, at_, if_neg (by simpa using same)]
        change store.value w.scene.world κ = store.value v.scene.world κ
        rw [put, Function.update_of_ne (Ne.symm same)]
    · have at_ : injectedAt (handle, ⟨t, inv.params⟩) = none :=
        injectedAt_of_ne (named.trans_ne injects)
      rw [List.find?_singleton, at_, if_neg (by simp)]
      exact congrFun (store.action_keeps (Disruption.execute_leaves hd injects _) ran) κ

theorem Launching.aimed (of : session.agent = cloud.agent config) (ids : FreshIds cloud)
    (store : ParameterStore cloud) {q : List ExecutionRecord} {m : List (Handle × Launch)}
    (h : session.Launching id u a q m v) :
    ∀ e ∈ m, e.1.skill = FailureSettings.skillName → ∃ κ previous,
      failureParameter? e.2.target = some κ ∧ e.1.undo = Injected.toValue ⟨κ.name, previous⟩ := by
  induction h with
  | nil | checked | unconnected | refused =>
    intro e he
    cases he
  | append _ _ ha hb =>
    intro e he
    exact (List.mem_append.1 he).elim (ha e) (hb e)
  | started _ known c x =>
    intro e he injects
    rw [List.mem_singleton] at he
    subst he
    obtain ⟨d, hd, rfl, _⟩ := disruption_of_skill? of known
    have ran := runAction_of_gives x
    obtain ⟨named, _⟩ := (Disruption.starts_execute hd _).spec ids ran
    cases Disruption.eq_injection hd (named.symm.trans injects)
    obtain ⟨κ, aimed, undo, _⟩ := Disruption.inject_ok store ran
    exact ⟨κ, _, aimed, undo⟩

theorem Undoing.undone (of : session.agent = cloud.agent config) {q : List RollbackRecord}
    {n : List Attempt} (h : session.Undoing id launches u a q n v)
    (aimed : ∀ e ∈ n.map Attempt.aim, e.1.skill = FailureSettings.skillName → ∃ κ previous,
      failureParameter? e.2.target = some κ ∧ e.1.undo = Injected.toValue ⟨κ.name, previous⟩)
    (κ : Place) : UndoneTo (parameters store u) (parameters store v) n κ := by
  induction h with
  | nil => rfl
  | append _ _ ha hb =>
    rw [List.map_append, List.forall_mem_append] at aimed
    exact (ha aimed.1).append (hb aimed.2)
  | unconnected _ _ _ c =>
    unfold UndoneTo
    rw [parameters_connect of c, List.reverse_singleton, List.find?_singleton]
    split
    · rfl
    · rename_i found
      split at found <;> cases found
      rintro ⟨⟩
  | @answered u v w skill handle l shared answer _ known _ c x =>
    obtain ⟨d, hd, rfl, named⟩ := disruption_of_skill? of known
    have ran := runAction_of_gives x
    rw [← parameters_connect of c]
    unfold UndoneTo
    rw [List.reverse_singleton, List.find?_singleton]
    by_cases injects : d.descriptor.name = FailureSettings.skillName
    · cases Disruption.eq_injection hd injects
      obtain ⟨κ', previous, aim, undo⟩ := aimed (handle, l) (by simp [Attempt.aim]) (named.symm.trans injects)
      by_cases same : κ' = κ
      · subst same
        have at_ : injectedAt (Attempt.aim ⟨handle, l, answer⟩) = some κ' :=
          injectedAt_eq_some.2 ⟨named.symm.trans injects, aim⟩
        rw [if_pos (by simpa using at_)]
        rintro rfl previous undo
        have set := Disruption.restore_spec store aim undo ran
        exact (congrFun set κ').trans (Function.update_self ..)
      · have at_ : injectedAt (Attempt.aim ⟨handle, l, answer⟩) = some κ' :=
          injectedAt_eq_some.2 ⟨named.symm.trans injects, aim⟩
        rw [if_neg (by simpa [at_] using same)]
        have set := Disruption.restore_spec store aim undo ran
        change store.value w.scene.world κ = store.value v.scene.world κ
        cases answer with
        | ok _ => exact (congrFun set κ).trans (Function.update_of_ne (Ne.symm same) ..)
        | error e => exact congrFun set κ
    · have at_ : injectedAt (Attempt.aim ⟨handle, l, answer⟩) = none :=
        injectedAt_of_ne (named.symm.trans_ne injects)
      rw [at_, if_neg (by simp)]
      exact congrFun (store.action_keeps (Disruption.rollback_leaves hd injects _ _) ran) κ

theorem parameters_status (of : session.agent = cloud.agent config) {name : String}
    {skill : Skill (AgentState W) Connection} {ctx : Context Connection} {h : Handle}
    {r : Except Error SkillStatus} (known : session.agent.skill? name = some skill)
    (x : Gives (skill.status ctx h) u r v) : parameters store v = parameters store u := by
  obtain ⟨d, hd, rfl, _⟩ := disruption_of_skill? of known
  exact store.action_keeps (Disruption.status_leaves hd ctx h) (runAction_of_gives x)

theorem Polled.parameters (of : session.agent = cloud.agent config) {h : Handle}
    {status : SkillStatus} (p : session.Polled launches h u a status v) :
    parameters store v = parameters store u := by
  cases p with
  | unknown => rfl
  | unconnected _ c => exact parameters_connect of c
  | unanswered known _ c x | answered known _ c x =>
    exact (parameters_status of known x).trans (parameters_connect of c)

theorem Polling.parameters (of : session.agent = cloud.agent config)
    {m : List Handle} {f : Option (Handle × String)}
    (h : session.Polling id launches u a m f v) : parameters store v = parameters store u := by
  induction h with
  | nil => rfl
  | append _ _ ha hb => exact hb.trans ha
  | slept d w =>
    rw [of]
    exact store.sleep d w.scene.world
  | running p | completed p | failed p => exact p.parameters of

theorem Waiting.parameters (of : session.agent = cloud.agent config) {x : Experiment}
    {targets : List Target} {began : RunState (AgentState W)} {m : List Handle}
    {f : Option (Handle × String)} {failure : Option String}
    (h : session.Waiting id x targets began launches u a m f failure v) :
    parameters store v = parameters store u := by
  cases h with
  | skipped => rfl
  | elapsed _ _ p | failed _ _ p => exact p.parameters of

theorem parameters_prepare (of : session.agent = cloud.agent config) {r : Except Error Unit}
    (p : Gives session.agent.prepare u r v) : parameters store v = parameters store u := by
  rw [parameters, scene_of_prepare of p]
  rfl

theorem parameters_discover (of : session.agent = cloud.agent config)
    {r : Except Error (List Target)} (d : session.agent.Discovers u r v) :
    parameters store v = parameters store u := by
  obtain ⟨e, _, same⟩ | ⟨registry, targets, _, _, _, found⟩ := discover_cases of d
  · rw [parameters, same]
    rfl
  · have kept := Inventory.discover_keeps store config.poolSize registry.accesses
      config.discovery.kinds u.scene
    rwa [found] at kept

theorem Preparing.parameters (of : session.agent = cloud.agent config) {targets : List Target}
    (h : session.Preparing u a targets v) : parameters store v = parameters store u := by
  cases h with
  | ready _ d => exact parameters_discover of d
  | prepared _ p d => exact (parameters_discover of d).trans (parameters_prepare of p)

theorem Refusing.parameters (of : session.agent = cloud.agent config) {e : Error}
    (h : session.Refusing u a e v) : parameters store v = parameters store u := by
  cases h with
  | unready _ p => exact parameters_prepare of p
  | ready _ d => exact parameters_discover of d
  | prepared _ p d => exact (parameters_discover of d).trans (parameters_prepare of p)

theorem Searching.parameters (of : session.agent = cloud.agent config) (h : session.Searching u a v) :
    parameters store v = parameters store u := by
  cases h with
  | ready => rfl
  | prepared _ p => exact parameters_prepare of p

variable {x : Experiment} {now : Instant} {report : Report} {s : RunState (AgentState W)}

theorem settled {before between after : Place → Option String} {started : List (Handle × Launch)}
    {attempts : List Attempt} {κ : Place} (reversed : attempts.map Attempt.aim = started.reverse)
    (kept : Kept before between started κ) (undone : UndoneTo between after attempts κ) :
    (started.find? (injectedAt · = some κ) = none ∧ after κ = before κ) ∨
      ∃ a ∈ attempts, started.find? (injectedAt · = some κ) = some a.aim ∧
        (a.answer = .ok () → after κ = before κ) := by
  -- The attempts come in reverse, so the first injection is the last of them.
  have order : started = attempts.reverse.map Attempt.aim := by
    rw [List.map_reverse, reversed, List.reverse_reverse]
  have found : started.find? (injectedAt · = some κ) =
      (attempts.reverse.find? fun a => injectedAt a.aim = some κ).map Attempt.aim := by
    rw [order, List.find?_map]
    rfl
  unfold Kept at kept
  unfold UndoneTo at undone
  rw [found] at kept ⊢
  cases last : attempts.reverse.find? fun a => injectedAt a.aim = some κ with
  | none =>
    rw [last] at kept undone
    exact .inl ⟨rfl, undone.trans kept⟩
  | some a =>
    rw [last] at kept undone
    have mem := List.mem_reverse.1 (List.mem_of_find?_eq_some last)
    exact .inr ⟨a, mem, rfl, fun ok => undone ok _ kept⟩

theorem Course.restored (of : session.agent = cloud.agent config) (ids : FreshIds cloud)
    (store : ParameterStore cloud) (c : session.Course id x u now report s) :
    Restored s.steps (parameters store u) (parameters store s.world) := by
  have own := c.ownHandles of ids
  have attempts := c.attempts_eq own
  have ended := c.ended_eq
  have launched (κ : Place) : Kept (parameters store u) (parameters store c.waited) c.started κ := by
    rw [c.waits.parameters of, ← c.prepares.parameters of]
    exact c.launches.kept of ids κ
  have undone (κ : Place) :
      UndoneTo (parameters store c.waited) (parameters store s.world) c.attempts κ := by
    apply c.undoes.undone of
    intro e he
    rw [attempts, List.mem_reverse] at he
    exact c.launches.aimed of ids store e he
  have settled (κ : Place) := settled attempts (launched κ) (undone κ)
  constructor
  · intro κ never
    rw [c.started_eq] at never
    rcases settled κ with ⟨_, same⟩ | ⟨a, _, found, _⟩
    · exact same
    · have at_ := List.find?_some found
      exact absurd (by simpa using at_) (never _ (List.mem_of_find?_eq_some found))
  · intro κ e first undone
    rw [c.started_eq] at first
    rw [ended] at undone
    rcases settled κ with ⟨none, _⟩ | ⟨a, mem, found, same⟩
    · rw [none] at first
      cases first
    · have aims : (c.attempts.map Attempt.aim).Nodup := by
        have distinct := own.distinct
        rw [c.started_eq] at distinct
        rw [attempts, List.nodup_reverse]
        exact distinct.of_map _
      rw [found, Option.some.injEq] at first
      have only : a = ⟨e.1, e.2, .ok ()⟩ := List.inj_on_of_nodup_map aims mem undone first
      exact same (by rw [only])
  · intro ok
    rw [ended] at ok
    funext κ
    rcases settled κ with ⟨_, same⟩ | ⟨a, mem, found, same⟩
    · exact same
    · have at_ := List.find?_some found
      have injected := injectedAt_eq_some.1 (by simpa using at_)
      exact same (ok a mem injected.1)

/-- Whatever fails in a run, each parameter that was injected is restored if its first injection has
been undone, and no other is touched. -/
theorem injections_restored {ending : RunEnd} (of : session.agent = cloud.agent config)
    (ids : FreshIds cloud) (store : ParameterStore cloud)
    (h : session.run id x u now = (ending, s)) (counted : ending ≠ .aborted .clockOverflow) :
    Restored s.steps (parameters store u) (parameters store s.world) := by
  have untouched (same : parameters store s.world = parameters store u) :
      Restored s.steps (parameters store u) (parameters store s.world) := by
    rw [same]
    exact ⟨fun _ _ => rfl, fun _ _ _ _ => rfl, fun _ => rfl⟩
  cases ending with
  | reported report =>
    obtain ⟨c⟩ := run_course h
    exact c.restored of ids store
  | refused e =>
    obtain ⟨a, refusing, -⟩ := refusing_of_run h
    exact untouched (refusing.parameters of)
  | aborted why =>
    cases why with
    | clockOverflow => exact (counted rfl).elim
    | endless =>
      obtain ⟨a, searching, -⟩ := searching_of_run h
      exact untouched (searching.parameters of)

end Session

def shelf : Cloud ((Place → Option String) × Nat) where
  send a
    | .listFunctions _, w =>
      let reading : Dictionary String := .ofList [(Inventory.failureVariable, "p")]
      (.ok { items := [{ name := some "f", environment := reading },
        { name := some "g", environment := reading }] }, w)
    | .getParameter name, w =>
      (match w.1 (Cloud.place a name) with
        | some v => .ok (some v)
        | none => .error ⟨some "ParameterNotFound", "absent"⟩, w)
    | .putParameter name v, w => (.ok (), Function.update w.1 (Cloud.place a name) (some v), w.2)
    | .deleteParameter name, w => (.ok (), Function.update w.1 (Cloud.place a name) none, w.2)
    | _, w => (.error ⟨none, "denied"⟩, w)
  unsent := ⟨none, "unsent"⟩
  calendar _ := .epoch
  clock _ := .zero
  freshId w := (⟨w.2⟩, w.1, w.2 + 1)
  sleep _ w := w
  turns w := ([], w)
  pageLimit := 1

namespace shelf

def store : ParameterStore shelf where
  value w := w.1
  got {a name v w w'} h := by
    simp only [shelf] at h
    split at h <;> cases h
    rename_i hv
    exact hv.symm
  unknown {a name e w w'} h _ := by
    simp only [shelf] at h
    split at h <;> cases h
    assumption
  put h := by cases h; rfl
  deleted h := by cases h; rfl
  gone h := by cases h
  refused {a request e w w'} h := by
    cases request <;> simp only [shelf, Prod.mk.injEq] at h <;> first | (cases h.2; rfl) | cases h.1
  unwritten a request w h := by
    cases request <;> first | rfl | exact (h trivial).elim
  freshId _ := rfl
  turns _ := rfl
  sleep _ _ := rfl

def ids : FreshIds shelf where
  issued w i := i.value < w.2
  fresh w := Nat.lt_irrefl w.2
  new w := Nat.lt_succ_self w.2
  freshId h := Nat.lt_succ_of_lt h
  send {i a request w} h := by cases request <;> exact h

def session : Session (AgentState ((Place → Option String) × Nat)) Connection where
  agent := shelf.agent ⟨[⟨"1", "eu", none⟩], 1, ⟨true, false, false, false⟩⟩
  settings := .standard
  listeners := 0

def shared : Experiment where
  name := "shared"
  skills := [⟨"aws.lambda.inject_failure", ⟨.lambda, .empty⟩,
    .mapping [(.text "failure_mode", .text "exception")], 2⟩]
  duration := rehearsalTime

def calm : AgentState ((Place → Option String) × Nat) := { scene := { world := (fun _ => some "calm", 0) } }

theorem shared_restored :
    Restored (session.run ⟨7⟩ shared calm .zero).2.steps (Session.parameters store calm)
      (Session.parameters store (session.run ⟨7⟩ shared calm .zero).2.world) := by
  obtain ⟨report, reported⟩ :
      ∃ report, (session.run ⟨7⟩ shared calm .zero).1 = .reported report := ⟨_, by rfl⟩
  have run : session.run ⟨7⟩ shared calm .zero =
    (.reported report, (session.run ⟨7⟩ shared calm .zero).2) := by rw [← reported]
  exact Session.injections_restored rfl ids store run (by simp)

example : ((session.run ⟨7⟩ shared calm .zero).2.steps.filterMap Step.started?).map injectedAt =
    [some ⟨"1", "eu", "p"⟩, some ⟨"1", "eu", "p"⟩] := by
  rfl

end shelf

end GameDay
