import GameDay.Proofs.Experiment.Phases

namespace GameDay

namespace Step

def contact? : Step → Option (Launch × Except Error Unit)
  | .connect .execute t params answer => some (⟨t, params⟩, answer)
  | _ => none

def use? : Step → Option (String × Launch × Except Error Unit)
  | .execute skill t params answer => some (skill, ⟨t, params⟩, answer.map fun _ => ())
  | _ => none

theorem contact?_silent {step : Step} (h : step.phase? ≠ some .launch) : step.contact? = none := by
  unfold contact?
  split
  · exact (h rfl).elim
  · rfl

theorem use?_silent {step : Step} (h : step.phase? ≠ some .launch) : step.use? = none := by
  unfold use?
  split
  · exact (h rfl).elim
  · rfl

variable {steps : List Step} {l : Launch} {name : String} {e : Error}

theorem mem_of_contact? (h : (l, .error e) ∈ steps.filterMap contact?) :
    .connect .execute l.target l.params (.error e) ∈ steps := by
  obtain ⟨step, mem, seen⟩ := List.mem_filterMap.1 h
  unfold contact? at seen
  split at seen
  · simp only [Option.some.injEq, Prod.mk.injEq] at seen
    obtain ⟨rfl, rfl⟩ := seen
    exact mem
  · cases seen

theorem mem_of_use? (h : (name, l, .error e) ∈ steps.filterMap use?) :
    .execute name l.target l.params (.error e) ∈ steps := by
  obtain ⟨step, mem, seen⟩ := List.mem_filterMap.1 h
  unfold use? at seen
  split at seen
  · rename_i answer
    simp only [Option.some.injEq, Prod.mk.injEq] at seen
    obtain ⟨rfl, rfl, failed⟩ := seen
    cases answer with
    | ok handle => cases failed
    | error e' =>
      cases failed
      exact mem
  · cases seen

end Step

def asked (targets : List Target) (invs : List Invocation) : List (String × Launch) :=
  invs.flatMap fun inv => (inv.selected targets).map fun t => (inv.skill, ⟨t, inv.params⟩)

def reached (uses : List (String × Launch)) : List (Launch × Except Error Unit) :=
  uses.map fun u => (u.2, .ok ())

def used (uses : List (String × Launch)) : List (String × Launch × Except Error Unit) :=
  uses.map fun u => (u.1, u.2, .ok ())

structure Made (uses : List (String × Launch)) (steps : List Step) : Prop where
  contacts : steps.filterMap Step.contact? = reached uses
  uses : steps.filterMap Step.use? = used uses

inductive Stopped (made next : List (String × Launch)) (steps : List Step) : Error → Prop
  | unreached {more rest : List (String × Launch)} {u : String × Launch} {e : Error}
      (order : next = more ++ u :: rest)
      (contacts : steps.filterMap Step.contact? = reached (made ++ more) ++ [(u.2, .error e)])
      (uses : steps.filterMap Step.use? = used (made ++ more)) : Stopped made next steps e
  | refused {more rest : List (String × Launch)} {u : String × Launch} {e : Error}
      (order : next = more ++ u :: rest)
      (contacts : steps.filterMap Step.contact? = reached (made ++ more ++ [u]))
      (uses : steps.filterMap Step.use? = used (made ++ more) ++ [(u.1, u.2, .error e)]) :
      Stopped made next steps (.skillExecution u.1 e)

def Made.orStopped (uses : List (String × Launch)) (steps : List Step) : Except Error Unit → Prop
  | .ok () => Made uses steps
  | .error e => Stopped [] uses steps e

def tried (steps : List Step) : List (String × Launch) :=
  (steps.filterMap Step.use?).map fun u => (u.1, u.2.1)

theorem asked_append (targets : List Target) (invs more : List Invocation) :
    asked targets (invs ++ more) = asked targets invs ++ asked targets more :=
  List.flatMap_append

theorem asked_cons (targets : List Target) (inv : Invocation) (invs : List Invocation) :
    asked targets (inv :: invs) = asked targets [inv] ++ asked targets invs :=
  asked_append targets [inv] invs

theorem reached_append (uses more : List (String × Launch)) :
    reached (uses ++ more) = reached uses ++ reached more :=
  List.map_append

theorem used_append (uses more : List (String × Launch)) :
    used (uses ++ more) = used uses ++ used more :=
  List.map_append

structure Likewise (a b : List Step) : Prop where
  contacts : a.filterMap Step.contact? = b.filterMap Step.contact?
  uses : a.filterMap Step.use? = b.filterMap Step.use?

variable {made next uses more : List (String × Launch)} {a b : List Step} {e : Error}

theorem Made.likewise (same : Likewise a b) (h : Made uses b) : Made uses a :=
  ⟨same.contacts.trans h.contacts, same.uses.trans h.uses⟩

theorem Stopped.likewise (same : Likewise a b) (h : Stopped made next b e) : Stopped made next a e := by
  cases h with
  | unreached order contacts tried =>
    exact .unreached order (same.contacts.trans contacts) (same.uses.trans tried)
  | refused order contacts tried =>
    exact .refused order (same.contacts.trans contacts) (same.uses.trans tried)

theorem Made.append (first : Made uses a) (second : Made more b) : Made (uses ++ more) (a ++ b) := by
  constructor
  · rw [List.filterMap_append, first.contacts, second.contacts, reached_append]
  · rw [List.filterMap_append, first.uses, second.uses, used_append]

@[simp] theorem tried_used (uses : List (String × Launch)) :
    (used uses).map (fun u => (u.1, u.2.1)) = uses := by
  simp [used, Function.comp_def]

theorem Made.tried (h : Made uses a) : tried a = uses := by
  rw [GameDay.tried, h.uses, tried_used]

theorem Stopped.tried (h : Stopped made next a e) : tried a <+: made ++ next := by
  rw [GameDay.tried]
  cases h with
  | @unreached more rest u _ order _ tried =>
    rw [tried, tried_used, order, ← List.append_assoc]
    exact List.prefix_append _ _
  | @refused more rest u _ order _ tried =>
    rw [tried, List.map_append, tried_used, order]
    exact ⟨rest, by simp⟩

theorem Stopped.not_made (h : Stopped made next a e) : ¬ Made uses a := by
  intro all
  -- The last connection or use has failed, and among those that were made none has.
  cases h with
  | @unreached more rest u _ order contacts uses =>
    rw [all.contacts] at contacts
    have mem : (u.2, .error e) ∈ reached (made ++ more) ++ [(u.2, .error e)] := by simp
    rw [← contacts] at mem
    simp [reached] at mem
  | @refused more rest u e order contacts uses =>
    rw [all.uses] at uses
    have mem : (u.1, u.2, .error e) ∈ used (made ++ more) ++ [(u.1, u.2, .error e)] := by simp
    rw [← uses] at mem
    simp [used] at mem

theorem Stopped.after (first : Made uses a) (h : Stopped made next b e) :
    Stopped (uses ++ made) next (a ++ b) e := by
  cases h with
  | unreached order contacts tried =>
    refine .unreached order ?_ ?_
    · rw [List.filterMap_append, first.contacts, contacts]
      simp only [reached_append, List.append_assoc]
    · rw [List.filterMap_append, first.uses, tried]
      simp only [used_append, List.append_assoc]
  | refused order contacts tried =>
    refine .refused order ?_ ?_
    · rw [List.filterMap_append, first.contacts, contacts]
      simp only [reached_append, List.append_assoc]
    · rw [List.filterMap_append, first.uses, tried]
      simp only [used_append, List.append_assoc]

theorem Stopped.shift (h : Stopped uses next a e) : Stopped [] (uses ++ next) a e := by
  cases h with
  | unreached order contacts tried =>
    rw [order, ← List.append_assoc]
    exact .unreached rfl contacts tried
  | refused order contacts tried =>
    rw [order, ← List.append_assoc]
    exact .refused rfl contacts tried

theorem Stopped.extend (h : Stopped made next a e) (rest : List (String × Launch)) :
    Stopped made (next ++ rest) a e := by
  cases h with
  | unreached order contacts tried =>
    rw [order, List.append_assoc]
    exact .unreached rfl contacts tried
  | refused order contacts tried =>
    rw [order, List.append_assoc]
    exact .refused rfl contacts tried

namespace Session

variable {W S : Type} (session : Session W S) (id : Uuid)

structure Accepted (targets : List Target) (inv : Invocation) : Prop where
  skill : ∃ skill, session.agent.skill? inv.skill = some skill ∧
    skill.descriptor.kind = inv.target.kind ∧ skill.validate inv.params = .ok ()
  selects : inv.selected targets ≠ []

inductive Objection (targets : List Target) (inv : Invocation) : Error → Prop
  | unknown (unknown : session.agent.skill? inv.skill = none) :
      Objection targets inv (.config ("Unknown skill: " ++ inv.skill))
  | wrongKind {skill : Skill W S} (known : session.agent.skill? inv.skill = some skill)
      (other : skill.descriptor.kind ≠ inv.target.kind) :
      Objection targets inv
        (.config ("Skill " ++ inv.skill ++ " cannot target " ++ inv.target.kind.shortName))
  | invalid {skill : Skill W S} {e : Error} (known : session.agent.skill? inv.skill = some skill)
      (fits : skill.descriptor.kind = inv.target.kind)
      (invalid : skill.validate inv.params = .error e) : Objection targets inv e
  | untargeted {skill : Skill W S} (known : session.agent.skill? inv.skill = some skill)
      (fits : skill.descriptor.kind = inv.target.kind) (valid : skill.validate inv.params = .ok ())
      (none : inv.selected targets = []) : Objection targets inv (.noTarget inv.target.text)

/-- The first phase has ended early, with the first error in the order of the invocations. -/
inductive Interrupted (targets : List Target) (invs : List Invocation) (steps : List Step) :
    Error → Prop
  | rejected {before after : List Invocation} {inv : Invocation} {e : Error}
      (order : invs = before ++ inv :: after) (passed : ∀ i ∈ before, session.Accepted targets i)
      (made : Made (asked targets before) steps) (objection : session.Objection targets inv e) :
      Interrupted targets invs steps e
  | stopped {before after : List Invocation} {inv : Invocation} {e : Error}
      (order : invs = before ++ inv :: after)
      (passed : ∀ i ∈ before ++ [inv], session.Accepted targets i)
      (stopped : Stopped (asked targets before) (asked targets [inv]) steps e) :
      Interrupted targets invs steps e

variable {session id} {targets : List Target} {inv : Invocation} {invs : List Invocation}
  {skill : Skill W S} {s s' : RunState W} {r : Except Error Unit}

theorem Objection.not_accepted (h : session.Objection targets inv e) :
    ¬ session.Accepted targets inv := by
  rintro ⟨⟨skill, known, fits, valid⟩, selects⟩
  cases h with
  | unknown unknown => simp [known] at unknown
  | wrongKind known' other =>
    rw [known] at known'
    cases known'
    exact other fits
  | invalid known' _ invalid =>
    rw [known] at known'
    cases known'
    rw [valid] at invalid
    cases invalid
  | untargeted _ _ _ none => exact selects none

theorem Interrupted.not_made (h : session.Interrupted targets invs a e)
    (passed : ∀ inv ∈ invs, session.Accepted targets inv) : ¬ Made uses a := by
  cases h with
  | rejected order _ _ objection =>
    exact (objection.not_accepted (passed _ (by simp [order]))).elim
  | stopped _ _ stopped => exact stopped.not_made

theorem Interrupted.likewise (same : Likewise a b) (h : session.Interrupted targets invs b e) :
    session.Interrupted targets invs a e := by
  cases h with
  | rejected order passed made objection =>
    exact .rejected order passed (made.likewise same) objection
  | stopped order passed stopped => exact .stopped order passed (stopped.likewise same)

theorem Interrupted.after (accepted : session.Accepted targets inv) (made : Made (asked targets [inv]) a)
    (h : session.Interrupted targets invs b e) :
    session.Interrupted targets (inv :: invs) (a ++ b) e := by
  cases h with
  | rejected order passed made' objection =>
    rw [order, ← List.cons_append]
    refine .rejected rfl ?_ ?_ objection
    · exact List.forall_mem_cons.2 ⟨accepted, passed⟩
    · rw [asked_cons]
      exact made.append made'
  | stopped order passed stopped =>
    rw [order, ← List.cons_append]
    refine .stopped rfl ?_ ?_
    · exact List.forall_mem_cons.2 ⟨accepted, passed⟩
    · rw [asked_cons]
      exact stopped.after made

theorem Interrupted.extend (h : session.Interrupted targets invs a e) (rest : List Invocation) :
    session.Interrupted targets (invs ++ rest) a e := by
  cases h with
  | rejected order passed made objection =>
    rw [order, List.append_assoc]
    exact .rejected rfl passed made objection
  | stopped order passed stopped =>
    rw [order, List.append_assoc]
    exact .stopped rfl passed stopped

theorem filterMap_announcement {α : Type} {f : Step → Option α} (what : Occurrence)
    (silent : ∀ step, step.phase? = none → f step = none) :
    (session.announcement id what).filterMap f = [] := by
  rw [List.filterMap_eq_nil_iff]
  intro step h
  obtain ⟨i, _, rfl⟩ := List.mem_map.1 h
  exact silent _ rfl

theorem contacts_announcement (what : Occurrence) :
    (session.announcement id what).filterMap Step.contact? = [] :=
  filterMap_announcement what fun _ h => Step.contact?_silent (by simp [h])

theorem uses_announcement (what : Occurrence) :
    (session.announcement id what).filterMap Step.use? = [] :=
  filterMap_announcement what fun _ h => Step.use?_silent (by simp [h])

theorem uses_launchOn {t : Target} (known : session.agent.skill? inv.skill = some skill)
    (h : session.launchOn id inv skill t s = (r, s')) :
    ∃ a, s'.steps = s.steps ++ a ∧ Made.orStopped [(inv.skill, ⟨t, inv.params⟩)] a r := by
  have name := Agent.name_of_skill? known
  have alone : [(inv.skill, (⟨t, inv.params⟩ : Launch))] = [] ++ [(inv.skill, ⟨t, inv.params⟩)] := rfl
  obtain ⟨e, rfl, _, steps, _⟩ | ⟨e, _, _, _, rfl, _, _, steps, _⟩ |
    ⟨handle, _, _, _, rfl, _, _, steps, _⟩ := launchOn_cases h
  · exact ⟨_, steps, .unreached alone rfl rfl⟩
  · rw [name] at steps
    refine ⟨_, steps, .refused alone ?_ ?_⟩
    · rw [List.filterMap_append, contacts_announcement]
      rfl
    · rw [List.filterMap_append, uses_announcement]
      rfl
  · rw [name] at steps
    refine ⟨_, steps, ?_, ?_⟩
    · rw [List.filterMap_append, contacts_announcement]
      rfl
    · rw [List.filterMap_append, uses_announcement]
      rfl

theorem uses_launchOnEach {ts : List Target} (known : session.agent.skill? inv.skill = some skill)
    (h : session.launchOnEach id inv skill ts s = (r, s')) :
    ∃ a, s'.steps = s.steps ++ a ∧
      Made.orStopped (ts.map fun t => (inv.skill, ⟨t, inv.params⟩)) a r := by
  induction ts generalizing s with
  | nil =>
    cases h
    exact ⟨[], by simp, rfl, rfl⟩
  | cons t ts ih =>
    simp only [launchOnEach] at h
    split at h
    · rename_i s₁ hx
      obtain ⟨a, ha, made⟩ := uses_launchOn known hx
      obtain ⟨b, hb, rest⟩ := ih h
      refine ⟨a ++ b, by rw [hb, ha, List.append_assoc], ?_⟩
      cases r with
      | ok _ => exact Made.append made rest
      | error e => exact (Stopped.after made rest).shift
    · rename_i e s₁ hx
      cases h
      obtain ⟨a, ha, stopped⟩ := uses_launchOn known hx
      exact ⟨a, ha, Stopped.extend stopped _⟩

def Checked (session : Session W S) (inv : Invocation) : Except Error (Skill W S) → Prop
  | .ok skill => session.agent.skill? inv.skill = some skill ∧
      skill.descriptor.kind = inv.target.kind ∧ skill.validate inv.params = .ok ()
  | .error e => ∀ targets, session.Objection targets inv e

theorem checked_check {checked : Except Error (Skill W S)} (h : session.check inv s = (checked, s')) :
    ∃ a, s'.steps = s.steps ++ a ∧ Made [] a ∧ session.Checked inv checked := by
  obtain ⟨unknown, rfl, rfl⟩ | ⟨skill, known, ⟨other, rfl, rfl⟩ | ⟨fits, rfl, rfl⟩⟩ := check_cases h
  · exact ⟨[], by simp, ⟨rfl, rfl⟩, fun _ => .unknown unknown⟩
  · exact ⟨[], by simp, ⟨rfl, rfl⟩, fun _ => .wrongKind known other⟩
  · refine ⟨_, s.steps_note _, ⟨rfl, rfl⟩, ?_⟩
    cases valid : skill.validate inv.params with
    | ok _ => exact ⟨known, fits, valid⟩
    | error e => exact fun _ => .invalid known fits valid

def Went (session : Session W S) (targets : List Target) (invs : List Invocation)
    (steps : List Step) : Except Error Unit → Prop
  | .ok () => (∀ inv ∈ invs, session.Accepted targets inv) ∧ Made (asked targets invs) steps
  | .error e => session.Interrupted targets invs steps e

theorem Went.begun (h : session.Went targets invs a r) : ∃ begun rest, invs = begun ++ rest ∧
    (∀ inv ∈ begun, session.Accepted targets inv) ∧ tried a <+: asked targets begun := by
  cases r with
  | ok _ =>
    obtain ⟨passed, made⟩ := h
    exact ⟨invs, [], by simp, passed, made.tried ▸ List.prefix_refl _⟩
  | error e =>
    cases h with
    | rejected order passed made _ => exact ⟨_, _, order, passed, made.tried ▸ List.prefix_refl _⟩
    | @stopped before after inv _ order passed stopped =>
      refine ⟨before ++ [inv], after, by rw [order]; simp, passed, ?_⟩
      rw [asked_append]
      exact stopped.tried

theorem Went.validated (h : session.Went targets invs a r) {name : String} {l : Launch}
    {answer : Except Error Unit} (mem : (name, l, answer) ∈ a.filterMap Step.use?) :
    ∃ skill, session.agent.skill? name = some skill ∧ skill.validate l.params = .ok () := by
  obtain ⟨begun, rest, _, passed, uses⟩ := h.begun
  have tries : (name, l) ∈ tried a := List.mem_map.2 ⟨_, mem, rfl⟩
  obtain ⟨inv, hi, ht⟩ := List.mem_flatMap.1 (uses.subset tries)
  obtain ⟨t, _, same⟩ := List.mem_map.1 ht
  cases same
  obtain ⟨skill, known, _, valid⟩ := (passed inv hi).skill
  exact ⟨skill, known, valid⟩

theorem went_launchInvocation (h : session.launchInvocation id targets inv s = (r, s')) :
    ∃ a, s'.steps = s.steps ++ a ∧ session.Went targets [inv] a r := by
  unfold launchInvocation at h
  split at h
  · rename_i e s₁ hc
    cases h
    obtain ⟨a, ha, made, objection⟩ := checked_check hc
    have order : [inv] = [] ++ [inv] := rfl
    exact ⟨a, ha, .rejected order (by simp) made (objection targets)⟩
  · rename_i skill s₁ hc
    obtain ⟨a, ha, made, known, fits, valid⟩ := checked_check hc
    split at h
    · rename_i none
      cases h
      have order : [inv] = [] ++ [inv] := rfl
      exact ⟨a, ha, .rejected order (by simp) made (.untargeted known fits valid none)⟩
    · rename_i selects
      have accepted : session.Accepted targets inv := ⟨⟨skill, known, fits, valid⟩, selects⟩
      obtain ⟨b, hb, went⟩ := uses_launchOnEach known h
      have single : asked targets [inv] =
          (inv.selected targets).map fun t => (inv.skill, ⟨t, inv.params⟩) :=
        List.append_nil _
      rw [← single] at went
      refine ⟨a ++ b, by rw [hb, ha, List.append_assoc], ?_⟩
      cases r with
      | ok _ => exact ⟨by simpa using accepted, made.append went⟩
      | error e =>
        have order : [inv] = [] ++ [inv] := rfl
        exact .stopped order (by simpa using accepted) (Stopped.after made went)

theorem went_launch (h : session.launch id targets invs s = (r, s')) :
    ∃ a, s'.steps = s.steps ++ a ∧ session.Went targets invs a r := by
  induction invs generalizing s with
  | nil =>
    cases h
    exact ⟨[], by simp, by simp, rfl, rfl⟩
  | cons inv invs ih =>
    simp only [launch] at h
    split at h
    · rename_i s₁ hx
      obtain ⟨a, ha, accepted, made⟩ := went_launchInvocation hx
      rw [List.forall_mem_singleton] at accepted
      obtain ⟨b, hb, went⟩ := ih h
      refine ⟨a ++ b, by rw [hb, ha, List.append_assoc], ?_⟩
      cases r with
      | ok _ =>
        refine ⟨List.forall_mem_cons.2 ⟨accepted, went.1⟩, ?_⟩
        rw [asked_cons]
        exact made.append went.2
      | error e => exact Interrupted.after accepted made went
    · rename_i e s₁ hx
      cases h
      obtain ⟨a, ha, interrupted⟩ := went_launchInvocation hx
      exact ⟨a, ha, Interrupted.extend interrupted _⟩

end Session

end GameDay
