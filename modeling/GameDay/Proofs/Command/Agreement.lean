import GameDay.Command.Run
import GameDay.Command.Validate
import GameDay.Proofs.Disruption.Errors
import GameDay.Proofs.Experiment.Conclusion
import GameDay.Proofs.Experiment.Events
import GameDay.Proofs.Experiment.Restoration

/-!
The verdicts of a validation and the checks of a run agree: what is faulty cannot be completed and
is not begun with, and what is not faulty does not fail because of the configuration.
-/

namespace GameDay

open Cloud (AgentState connection_of_connect disruption_of_skill? runAction_of_gives)

namespace Command

def Verdict.complaint? (inv : Invocation) : Verdict → Option Error
  | unknown => some (.config ("Unknown skill: " ++ inv.skill))
  | wrongKind _ =>
    some (.config ("Skill " ++ inv.skill ++ " cannot target " ++ inv.target.kind.shortName))
  | invalidParams e => some e
  | fine => none

/-- What a run fails with that is not the fault of its configuration: the text of the failure. -/
inductive Mishap (x : Experiment) (steps : List Step) : String → Prop
  | untargeted {before after : List Invocation} {inv : Invocation} {targets : List Target}
      (order : x.skills = before ++ inv :: after) (passed : ∀ i ∈ before ++ [inv], verdict i = .fine)
      (found : .discover (.ok targets) ∈ steps) (none : inv.selected targets = []) :
      Mishap x steps (Error.noTarget inv.target.text).message
  | unreached {t : Target} {params : Yaml.Value} {text : String}
      (contact : .connect .execute t params (.error (.connection text)) ∈ steps) :
      Mishap x steps (Error.connection text).message
  | refused {name : String} {t : Target} {params : Yaml.Value} {e : Error}
      (use : .execute name t params (.error e) ∈ steps) (operational : Disruption.Operational e) :
      Mishap x steps (Error.skillExecution name e).message
  | failed {d : Disruption} {h : Handle} {reason : String} (known : d ∈ Disruption.all)
      (named : h.skill = d.descriptor.name) (polled : (h, .failed reason) ∈ steps.filterMap Step.polled?) :
      Mishap x steps (h.skill ++ " on " ++ h.target ++ ": " ++ reason)

def FirstFault (x : Experiment) (e : Error) : Prop :=
  ∃ before inv after, x.skills = before ++ inv :: after ∧ (∀ i ∈ before, verdict i = .fine) ∧
    (verdict inv).complaint? inv = some e

/-- A run accords with the verdicts on the invocations of its experiment. -/
structure Heeds (x : Experiment) (ending : RunEnd) (steps : List Step) : Prop where
  uncompleted : experimentFaults x ≠ [] → (∃ e, ending = .refused e) ∨ ending = .aborted .endless ∨
    ∃ report, ending = .reported report ∧ report.status ≠ "completed"
  uses : tried steps = [] ∨ ∃ targets, Step.discover (.ok targets) ∈ steps ∧
    tried steps <+: asked targets (x.skills.takeWhile (verdict · = .fine))
  failing : ∀ report, ending = .reported report → report.status ≠ "completed" →
    (∃ e, FirstFault x e ∧ report.status = "failed: " ++ e.message) ∨
      ∃ text, Mishap x steps text ∧ report.status = "failed: " ++ text
  blamed : ∀ report, ending = .reported report → ∀ text,
    report.status = "failed: " ++ (Error.config text).message → FirstFault x (.config text)
  faultless : experimentFaults x = [] → ∀ report, ending = .reported report → ∀ text,
    report.status ≠ "failed: " ++ (Error.config text).message
  inside : ∀ name t params e, .execute name t params (.error e) ∈ steps → ¬ e.Misconfigured

structure Agreement {W : Type} (cloud : Cloud W) (l : Loaded) (x : Experiment) : Prop where
  told : ∃ closing, (validate l).err = Text.lines ((faults l).map fun f => "  - " ++ f.text) ++ closing
  among : ∀ f ∈ experimentFaults x, f ∈ faults l
  passes : ∀ s, experimentFaults x = [] ↔ ∀ inv ∈ x.skills, ∃ skill,
    ((session cloud l).check inv s).1 = .ok skill
  params : ∀ inv ∈ x.skills, ∀ e, verdict inv = .invalidParams e →
    .skill x.name inv (.invalidParams e) ∈ experimentFaults x ∧
      Fault.text (.skill x.name inv (.invalidParams e)) =
        "Experiment '" ++ x.name ++ "', skill '" ++ inv.skill ++ "': invalid params: " ++ e.message ∧
      ∀ s, ((session cloud l).check inv s).1.map (fun _ => ()) = .error e
  heeds : ∀ id world now ending s, (session cloud l).run id x world now = (ending, s) →
    Heeds x ending s.steps

theorem faultless_iff {x : Experiment} :
    experimentFaults x = [] ↔ ∀ inv ∈ x.skills, verdict inv = .fine := by
  unfold experimentFaults
  rw [List.filterMap_eq_nil_iff]
  refine forall₂_congr fun inv _ => ?_
  unfold invocationFault?
  split
  · rename_i fine
    exact iff_of_true rfl fine
  · rename_i other
    exact iff_of_false (by simp) other

theorem FirstFault.faulty {x : Experiment} {e : Error} (h : FirstFault x e) : experimentFaults x ≠ [] := by
  obtain ⟨before, inv, after, order, -, complaint⟩ := h
  intro faultless
  have fine := faultless_iff.1 faultless inv (by simp [order])
  rw [fine] at complaint
  cases complaint

theorem FirstFault.config {x : Experiment} {e : Error} (h : FirstFault x e) : ∃ text, e = .config text := by
  obtain ⟨_, inv, _, _, _, complaint⟩ := h
  unfold verdict at complaint
  split at complaint
  · cases complaint
    exact ⟨_, rfl⟩
  · rename_i d found
    split at complaint
    · split at complaint
      · cases complaint
      · rename_i e' invalid
        cases complaint
        obtain ⟨text, rfl, -⟩ := Disruption.validate_error (List.mem_of_find?_eq_some found) invalid
        exact ⟨text, rfl⟩
    · cases complaint
      exact ⟨_, rfl⟩

theorem take_append {start : String} (long : 4 ≤ start.toList.length) (text : String) :
    (start ++ text).toList.take 4 = start.toList.take 4 := by
  rw [String.toList_append, List.take_append_of_le_length long]

theorem Mishap.letters {x : Experiment} {steps : List Step} {text : String} (h : Mishap x steps text) :
    text.toList.take 4 ≠ "Conf".toList := by
  cases h with
  | @untargeted _ _ inv =>
    change ("No target matches " ++ inv.target.text).toList.take 4 ≠ "Conf".toList
    rw [take_append (by decide)]
    decide
  | @unreached _ _ text =>
    change ("Connection error: " ++ text).toList.take 4 ≠ "Conf".toList
    rw [take_append (by decide)]
    decide
  | @refused name _ _ e =>
    change ("Skill execution failed: " ++ name ++ " -- " ++ e.message).toList.take 4 ≠ "Conf".toList
    rw [String.append_assoc, String.append_assoc, take_append (by decide)]
    decide
  | @failed d h reason known named =>
    rw [named, String.append_assoc, String.append_assoc, String.append_assoc]
    simp only [Disruption.all, List.mem_cons, List.not_mem_nil, or_false] at known
    rcases known with rfl | rfl | rfl | rfl <;> rw [take_append (by decide)] <;> decide

theorem Mishap.ne_config {x : Experiment} {steps : List Step} {text : String} (h : Mishap x steps text)
    (wrong : String) : text ≠ (Error.config wrong).message := by
  rintro rfl
  refine h.letters ?_
  change ("Configuration error: " ++ wrong).toList.take 4 = "Conf".toList
  rw [take_append (by decide)]
  decide

end Command

namespace Session

open Command (FirstFault Heeds Mishap Verdict experimentFaults faultless_iff verdict)

variable {W : Type} {cloud : Cloud W} {config : Cloud.Settings}
  {session : Session (AgentState W) Connection} {id : Uuid}

theorem skill?_agent (of : session.agent = cloud.agent config) (name : String) :
    session.agent.skill? name =
      (Disruption.all.find? (·.descriptor.name = name)).map cloud.skill := by
  rw [of]
  exact List.find?_map

inductive Judged (session : Session (AgentState W) Connection) (inv : Invocation) : Verdict → Prop
  | unknown (unknown : session.agent.skill? inv.skill = none) : Judged session inv .unknown
  | wrongKind {skill : Skill (AgentState W) Connection}
      (known : session.agent.skill? inv.skill = some skill)
      (other : skill.descriptor.kind ≠ inv.target.kind) :
      Judged session inv (.wrongKind skill.descriptor.kind)
  | invalidParams {skill : Skill (AgentState W) Connection} {e : Error}
      (known : session.agent.skill? inv.skill = some skill)
      (fits : skill.descriptor.kind = inv.target.kind) (invalid : skill.validate inv.params = .error e) :
      Judged session inv (.invalidParams e)
  | fine {skill : Skill (AgentState W) Connection}
      (known : session.agent.skill? inv.skill = some skill)
      (fits : skill.descriptor.kind = inv.target.kind) (valid : skill.validate inv.params = .ok ()) :
      Judged session inv .fine

theorem judged (of : session.agent = cloud.agent config) (inv : Invocation) :
    session.Judged inv (verdict inv) := by
  have skill := skill?_agent of inv.skill
  unfold verdict
  cases found : Disruption.all.find? (·.descriptor.name = inv.skill) with
  | none =>
    rw [found] at skill
    exact .unknown skill
  | some d =>
    rw [found] at skill
    simp only
    split
    · rename_i fits
      cases valid : d.validate inv.params with
      | ok _ => exact .fine skill fits valid
      | error e => exact .invalidParams skill fits valid
    · rename_i other
      exact .wrongKind skill other

variable {inv : Invocation} {targets : List Target} {s s' : RunState (AgentState W)} {v : Verdict}
  {e : Error}

theorem Judged.check_ok (j : session.Judged inv .fine) : ∃ skill, (session.check inv s).1 = .ok skill := by
  cases j with
  | fine known fits valid =>
    simp only [Session.check, known, if_pos fits, valid]
    exact ⟨_, rfl⟩

theorem Judged.check_error (j : session.Judged inv v) (complaint : v.complaint? inv = some e) :
    (session.check inv s).1.map (fun _ => ()) = .error e := by
  cases j with
  | unknown unknown =>
    cases complaint
    simp only [Session.check, unknown]
    rfl
  | wrongKind known other =>
    cases complaint
    simp only [Session.check, known, if_neg other]
    rfl
  | invalidParams known fits invalid =>
    cases complaint
    simp only [Session.check, known, if_pos fits, invalid]
    rfl
  | fine => cases complaint

theorem Judged.fine_iff_check (j : session.Judged inv v) :
    v = .fine ↔ ∃ skill, (session.check inv s).1 = .ok skill := by
  constructor
  · rintro rfl
    exact j.check_ok
  · rintro ⟨skill, ok⟩
    cases complaint : v.complaint? inv with
    | none =>
      cases v with
      | fine => rfl
      | unknown | wrongKind | invalidParams => cases complaint
    | some e =>
      have failed := j.check_error (s := s) complaint
      rw [ok] at failed
      cases failed

theorem Judged.fine_of_valid (j : session.Judged inv v) {skill : Skill (AgentState W) Connection}
    (known : session.agent.skill? inv.skill = some skill) (fits : skill.descriptor.kind = inv.target.kind)
    (valid : skill.validate inv.params = .ok ()) : v = .fine := by
  cases j with
  | unknown unknown => simp [known] at unknown
  | wrongKind known' other =>
    cases known.symm.trans known'
    exact (other fits).elim
  | invalidParams known' _ invalid =>
    cases known.symm.trans known'
    cases valid.symm.trans invalid
  | fine => rfl

theorem Judged.fine_of_accepted (j : session.Judged inv v) (accepted : session.Accepted targets inv) :
    v = .fine :=
  have ⟨⟨_, known, fits, valid⟩, _⟩ := accepted
  j.fine_of_valid known fits valid

theorem Judged.complaint_of_objection (j : session.Judged inv v) (h : session.Objection targets inv e) :
    v.complaint? inv = some e ∨ e = .noTarget inv.target.text := by
  cases h with
  | unknown unknown =>
    cases j with
    | unknown => exact .inl rfl
    | wrongKind known | invalidParams known | fine known => simp [known] at unknown
  | wrongKind known other =>
    cases j with
    | unknown unknown => simp [known] at unknown
    | wrongKind => exact .inl rfl
    | invalidParams known' fits | fine known' fits =>
      cases known.symm.trans known'
      exact (other fits).elim
  | invalid known fits invalid =>
    cases j with
    | unknown unknown => simp [known] at unknown
    | wrongKind known' other =>
      cases known.symm.trans known'
      exact (other fits).elim
    | invalidParams known' _ invalid' =>
      cases known.symm.trans known'
      cases invalid.symm.trans invalid'
      exact .inl rfl
    | fine known' _ valid =>
      cases known.symm.trans known'
      cases invalid.symm.trans valid
  | untargeted => exact .inr rfl

variable {x : Experiment} {u w : AgentState W} {a : List Step} {q : List ExecutionRecord}
  {m : List (Handle × Launch)} {r : Except Error Unit} {steps : List Step} {ending : RunEnd}

theorem Launching.gives_execute (h : session.Launching id u a q m w) {name : String} {t : Target}
    {params : Yaml.Value} {answer : Except Error Handle}
    (mem : Step.execute name t params answer ∈ a) :
    ∃ skill shared v v', session.agent.skill? name = some skill ∧
      Gives (skill.execute ⟨shared, t, params⟩) v answer v' := by
  induction h with
  | nil => cases mem
  | append _ _ ha hb => exact (List.mem_append.1 mem).elim ha hb
  | checked | unconnected => simp at mem
  | refused _ known _ x =>
    simp [announcement] at mem
    obtain ⟨rfl, rfl, rfl, rfl⟩ := mem
    exact ⟨_, _, _, _, by rw [Agent.name_of_skill? known]; exact known, x⟩
  | started _ known _ x =>
    simp [announcement] at mem
    obtain ⟨rfl, rfl, rfl, rfl⟩ := mem
    exact ⟨_, _, _, _, by rw [Agent.name_of_skill? known]; exact known, x⟩

theorem Launching.gives_connect (h : session.Launching id u a q m w) {t : Target} {params : Yaml.Value}
    (mem : Step.connect .execute t params (.error e) ∈ a) :
    ∃ v v', Gives (session.agent.connect t params) v (.error e) v' := by
  induction h with
  | nil => cases mem
  | append _ _ ha hb => exact (List.mem_append.1 mem).elim ha hb
  | checked | refused | started => simp [announcement] at mem
  | unconnected c =>
    simp at mem
    obtain ⟨rfl, rfl, rfl⟩ := mem
    exact ⟨_, _, c⟩

theorem operational_of_execute (of : session.agent = cloud.agent config)
    (launching : session.Launching id u a q m w) (went : session.Went targets x.skills a r)
    {name : String} {t : Target} {params : Yaml.Value}
    (mem : Step.execute name t params (.error e) ∈ a) : Disruption.Operational e := by
  obtain ⟨skill, shared, v, v', known, gives⟩ := launching.gives_execute mem
  have use : (name, (⟨t, params⟩ : Launch), (Except.error e : Except Error Unit)) ∈
      a.filterMap Step.use? :=
    List.mem_filterMap.2 ⟨_, mem, rfl⟩
  obtain ⟨skill', known', valid⟩ := went.validated use
  cases known.symm.trans known'
  obtain ⟨d, hd, rfl, _⟩ := disruption_of_skill? of known
  have ran := runAction_of_gives gives
  have errs : (d.execute ⟨shared, t, params⟩).Errs Disruption.Operational :=
    Disruption.errs_execute hd valid
  exact errs.run v.scene e (congrArg Prod.fst ran)

theorem failing_of_interrupted (of : session.agent = cloud.agent config)
    (launching : session.Launching id u a q m w) (h : session.Interrupted targets x.skills a e)
    (within : ∀ step ∈ a, step ∈ steps) (found : .discover (.ok targets) ∈ steps) :
    FirstFault x e ∨ Mishap x steps e.message := by
  have passed {invs : List Invocation} (accepted : ∀ i ∈ invs, session.Accepted targets i) :
      ∀ i ∈ invs, verdict i = .fine :=
    fun i hi => (judged of i).fine_of_accepted (accepted i hi)
  have went : session.Went targets x.skills a (.error e) := h
  cases h with
  | @rejected before after inv _ order accepted _ objection =>
    have complains := (judged of inv).complaint_of_objection objection
    cases objection with
    | unknown | wrongKind => exact .inl ⟨before, inv, after, order, passed accepted, complains.resolve_right (by simp)⟩
    | invalid known fits invalid =>
      refine .inl ⟨before, inv, after, order, passed accepted, complains.resolve_right ?_⟩
      rintro rfl
      obtain ⟨d, hd, rfl, -⟩ := disruption_of_skill? of known
      obtain ⟨text, shape, -⟩ := Disruption.validate_error hd invalid
      cases shape
    | untargeted known fits valid none =>
      have own : verdict inv = .fine := (judged of inv).fine_of_valid known fits valid
      refine .inr (.untargeted order ?_ found none)
      rw [List.forall_mem_append, List.forall_mem_singleton]
      exact ⟨passed accepted, own⟩
  | stopped order accepted stopped =>
    right
    cases stopped with
    | @unreached more rest u _ order contacts _ =>
      have contact : (u.2, .error e) ∈ a.filterMap Step.contact? := by simp [contacts]
      have step := Step.mem_of_contact? contact
      obtain ⟨v, v', c⟩ := launching.gives_connect step
      obtain ⟨text, rfl⟩ := connection_of_connect of c
      exact .unreached (within _ step)
    | @refused more rest u e order _ uses =>
      have use : (u.1, u.2, .error e) ∈ a.filterMap Step.use? := by simp [uses]
      have step := Step.mem_of_use? use
      exact .refused (within _ step) (operational_of_execute of launching went step)

theorem tried_prefix (of : session.agent = cloud.agent config) (went : session.Went targets x.skills a r) :
    tried a <+: asked targets (x.skills.takeWhile (verdict · = .fine)) := by
  obtain ⟨begun, rest, order, accepted, uses⟩ := went.begun
  have fine : ∀ i ∈ begun, decide (verdict i = .fine) = true := by
    intro i hi
    exact decide_eq_true ((judged of i).fine_of_accepted (accepted i hi))
  rw [order, List.takeWhile_append_of_pos fine, asked_append]
  exact uses.trans (List.prefix_append _ _)

theorem faultless_of_accepted (of : session.agent = cloud.agent config)
    (accepted : ∀ i ∈ x.skills, session.Accepted targets i) : experimentFaults x = [] :=
  faultless_iff.2 fun i hi => (judged of i).fine_of_accepted (accepted i hi)

theorem failing_of_concluded (of : session.agent = cloud.agent config)
    (p : session.Passage id x targets steps ending) {report : Report} (reported : ending = .reported report)
    (unfinished : report.status ≠ "completed") :
    (∃ e, FirstFault x e ∧ report.status = "failed: " ++ e.message) ∨
      ∃ text, Mishap x steps text ∧ report.status = "failed: " ++ text := by
  obtain ⟨q, m, w, launching⟩ := p.exists_launching
  have like := p.likewise
  have within : ∀ step ∈ p.launching, step ∈ steps := by
    intro step mem
    rw [p.parts]
    exact List.mem_append_right _ (List.mem_append_left _ mem)
  have concluded := p.concluded
  subst reported
  cases concluded with
  | completed _ status => exact (unfinished status).elim
  | failed failure status =>
    cases failure with
    | @launching e interrupted _ =>
      have interrupted := interrupted.likewise ⟨like.contacts.symm, like.uses.symm⟩
      rcases failing_of_interrupted of launching interrupted within p.mem_discover with fault | mishap
      · exact .inl ⟨e, fault, status⟩
      · exact .inr ⟨_, mishap, status⟩
    | @waiting polls h reason _ _ _ polled =>
      have mem : (h, .failed reason) ∈ steps.filterMap Step.polled? := by simp [polled]
      obtain ⟨skill, known⟩ := p.known _ (p.polls ▸ mem)
      obtain ⟨d, hd, rfl, named⟩ := disruption_of_skill? of known
      exact .inr ⟨_, .failed hd named.symm mem, status⟩

theorem heeds_of_passage (of : session.agent = cloud.agent config)
    (p : session.Passage id x targets steps ending) : Heeds x ending steps := by
  obtain ⟨q, m, w, launching⟩ := p.exists_launching
  have like := p.likewise
  have uses : tried steps <+: asked targets (x.skills.takeWhile (verdict · = .fine)) := by
    rw [tried, like.uses]
    exact tried_prefix of p.went
  have blamed : ∀ report, ending = .reported report → ∀ text,
      report.status = "failed: " ++ (Error.config text).message → FirstFault x (.config text) := by
    intro report reported text status
    have unfinished : report.status ≠ "completed" := by
      rw [status]
      exact (label_completed_ne _).symm
    rcases failing_of_concluded of p reported unfinished with ⟨e, fault, same⟩ | ⟨other, mishap, same⟩
    · obtain ⟨wrong, rfl⟩ := fault.config
      have messages := (String.append_right_inj _).1 (status.symm.trans same)
      change "Configuration error: " ++ text = "Configuration error: " ++ wrong at messages
      rwa [(String.append_right_inj _).1 messages]
    · have texts := (String.append_right_inj _).1 (status.symm.trans same)
      exact (mishap.ne_config text texts.symm).elim
  constructor
  · intro faulty
    have concluded := p.concluded
    cases concluded with
    | completed untroubled | aborted untroubled =>
      exact (faulty (faultless_of_accepted of untroubled.passed)).elim
    | @failed report text _ status =>
      refine .inr (.inr ⟨report, rfl, ?_⟩)
      rw [status]
      exact (label_completed_ne text).symm
  · exact .inr ⟨targets, p.mem_discover, uses⟩
  · exact fun report reported unfinished => failing_of_concluded of p reported unfinished
  · exact blamed
  · exact fun faultless report reported text status => (blamed report reported text status).faulty faultless
  · intro name t params e mem
    have use : (name, (⟨t, params⟩ : Launch), (Except.error e : Except Error Unit)) ∈
        steps.filterMap Step.use? := List.mem_filterMap.2 ⟨_, mem, rfl⟩
    rw [like.uses] at use
    exact (operational_of_execute of launching p.went (Step.mem_of_use? use)).not_misconfigured

theorem heeds_of_run (of : session.agent = cloud.agent config) {now : Instant}
    (h : session.run id x u now = (ending, s)) : Heeds x ending s.steps := by
  rcases run_passes h with stopped | ⟨targets, ⟨p⟩⟩
  · have unreported : ∀ report, ending ≠ .reported report := by
      rintro report rfl
      rcases stopped with ⟨e, refused⟩ | endless
      · cases refused
      · cases endless
    have setup : OfPhase .setup s.steps := ofPhase_setup h stopped
    have unused : s.steps.filterMap Step.use? = [] :=
      setup.filterMap_eq_nil (by decide) fun _ => Step.use?_silent
    refine ⟨fun _ => stopped.imp_right .inl, .inl ?_, ?_, ?_, ?_, ?_⟩
    · rw [tried, unused, List.map_nil]
    · exact fun report reported => (unreported report reported).elim
    · exact fun report reported => (unreported report reported).elim
    · exact fun _ report reported => (unreported report reported).elim
    · intro name t params e mem
      obtain phase | phase := setup _ mem <;> cases phase
  · exact heeds_of_passage of p

end Session

namespace Command

variable {W : Type} (cloud : Cloud W) {l : Loaded} {x : Experiment}

theorem err_validate (l : Loaded) :
    ∃ closing, (validate l).err = Text.lines ((faults l).map fun f => "  - " ++ f.text) ++ closing := by
  unfold validate
  split
  · rename_i none
    exact ⟨"", by rw [none]; rfl⟩
  · exact ⟨_, rfl⟩

theorem mem_experimentFaults {inv : Invocation} {e : Error} (mem : inv ∈ x.skills)
    (invalid : verdict inv = .invalidParams e) :
    .skill x.name inv (.invalidParams e) ∈ experimentFaults x := by
  refine List.mem_filterMap.2 ⟨inv, mem, ?_⟩
  simp only [invocationFault?, invalid]

theorem validation_agrees_with_runs (mem : x ∈ l.config.experiments) : Agreement cloud l x := by
  have of : (session cloud l).agent = cloud.agent l.settings := rfl
  constructor
  · exact err_validate l
  · intro f hf
    exact List.mem_append_right _ (List.mem_flatMap.2 ⟨x, mem, hf⟩)
  · intro s
    rw [faultless_iff]
    exact forall₂_congr fun inv _ => (Session.judged of inv).fine_iff_check
  · intro inv hi e invalid
    have j := Session.judged of inv
    rw [invalid] at j
    exact ⟨mem_experimentFaults hi invalid, rfl, fun s => j.check_error rfl⟩
  · intro id world now ending s h
    exact Session.heeds_of_run of h

def garbled : Experiment where
  name := "garbled"
  skills := [⟨"aws.lambda.inject_failure", ⟨.lambda, .empty⟩,
      .mapping [(.text "failure_mode", .text "exception")], 1⟩,
    ⟨"aws.lambda.inject_failure", ⟨.lambda, .empty⟩, .null, 1⟩]
  duration := rehearsalTime

def garbledFile : Loaded where
  path := "garbled.yaml"
  config := { targetConfig := .null, experiments := [garbled] }
  settings := ⟨[⟨"1", "eu", none⟩], 1, ⟨true, false, false, false⟩⟩

theorem garbled_agrees_with_runs :
    garbled ∈ garbledFile.config.experiments ∧ Agreement shelf garbledFile garbled := by
  have mem : garbled ∈ garbledFile.config.experiments := List.mem_singleton_self garbled
  exact ⟨mem, validation_agrees_with_runs shelf mem⟩

example : (experimentFaults garbled).length = 1 := by decide +kernel

end Command

end GameDay
