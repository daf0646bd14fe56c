import GameDay.Proofs.Cloud.Plans
import GameDay.Proofs.Dictionary
import GameDay.Proofs.Estimates.Staleness

/-!
Any number of inquiries share what they remember, in any order of their steps, while anything else may
change. All that is done is written down, and what is remembered can be read off that history.
-/

namespace GameDay

namespace Estimates

open Cloud (Effect Plan Scene)
open Inventory (estimate fetchActions)

def Outward : Effect → Prop
  | .send .. | .clock | .freshId => True
  | .lookUp _ | .record .. => False

structure Source (ε : Type) where
  fetch : String → Plan (Except ε Fis.TemplateActions)
  outward : ∀ template, (fetch template).Within Outward

structure Deed where
  inquiry : Nat
  time : Timestamp
  effect : Effect
  answer : effect.Answer

def Deed.kept? : Deed → Option (String × Fis.Estimate)
  | ⟨_, time, .record template duration, _⟩ => some (template, ⟨time, duration⟩)
  | _ => none

/-- What is remembered after some deeds. Of each template, that is what was put in last. -/
def remembered (history : List Deed) : Fis.DurationCache := .ofList (history.filterMap Deed.kept?)

def Deed.Finds (before : List Deed) : Deed → Prop
  | ⟨_, _, .lookUp template, known⟩ => known = (remembered before).get? template
  | _ => True

structure Inquiry (ε : Type) where
  source : Source ε
  template : String
  lastUpdate : Timestamp
  plan : Plan (Except ε Duration)

def Inquiry.returned? {ε : Type} (c : Inquiry ε) : Option Duration :=
  match c.plan with
  | .done (.ok d) => some d
  | _ => none

theorem Inquiry.returned?_eq_some_iff {ε : Type} {c : Inquiry ε} {d : Duration} :
    c.returned? = some d ↔ c.plan = .done (.ok d) := by
  unfold returned?
  split
  · rename_i plan
    simp [plan]
  · rename_i other
    simp only [reduceCtorEq, false_iff]
    exact other d

structure Sharing (ε W : Type) where
  scene : Scene W
  inquiries : List (Inquiry ε) := []
  history : List Deed := []

namespace Sharing

inductive Move (ε W : Type)
  | ask (source : Source ε) (template : String) (lastUpdate : Timestamp)
  | turn (inquiry : Nat)
  | change (world : W)

variable {ε W : Type} (cloud : Cloud W)

def turn (i : Nat) (s : Sharing ε W) : Sharing ε W :=
  match s.inquiries[i]? with
  | none => s
  | some c => match c.plan with
    | .done _ => s
    | .perform effect next =>
      let (answer, scene) := cloud.perform effect s.scene
      { scene
        inquiries := s.inquiries.set i { c with plan := next answer }
        history := s.history ++ [⟨i, cloud.calendar s.scene.world, effect, answer⟩] }

def apply (s : Sharing ε W) : Move ε W → Sharing ε W
  | .ask source template lastUpdate =>
    let plan := estimate (source.fetch template) template lastUpdate
    { s with inquiries := s.inquiries ++ [{ source, template, lastUpdate, plan }] }
  | .turn i => s.turn cloud i
  | .change world => { s with scene.world := world }

def after (world : W) (moves : List (Move ε W)) : Sharing ε W :=
  moves.foldl (apply cloud) { scene := { world } }

def deeds (s : Sharing ε W) (i : Nat) : List Deed := s.history.filter (·.inquiry = i)

end Sharing

inductive Performs {α : Type} (i : Nat) (p : Plan α) : List Deed → Plan α → Prop
  | nothing : Performs i p [] p
  | step {deeds : List Deed} {e : Effect} {next : e.Answer → Plan α}
      (before : Performs i p deeds (.perform e next)) (time : Timestamp) (answer : e.Answer) :
      Performs i p (deeds ++ [⟨i, time, e, answer⟩]) (next answer)

/-- What an inquiry has done. It looks for an estimate, and if there is none that is new enough, the
actions are fetched, from beginning to end. -/
inductive Stage {ε : Type} (i : Nat) (c : Inquiry ε) : List Deed → Prop
  | begun (plan : c.plan = estimate (c.source.fetch c.template) c.template c.lastUpdate) : Stage i c []
  | served {t : Timestamp} {e : Fis.Estimate} (recent : c.lastUpdate ≤ e.createdAt)
      (plan : c.plan = .done (.ok e.duration)) : Stage i c [⟨i, t, .lookUp c.template, some e⟩]
  | fetching {t : Timestamp} {known : Option Fis.Estimate} {deeds : List Deed} {e : Effect}
      {next : e.Answer → Plan (Except ε Fis.TemplateActions)}
      (missed : ∀ e, known = some e → ¬ c.lastUpdate ≤ e.createdAt)
      (fetch : Performs i (c.source.fetch c.template) deeds (.perform e next))
      (plan : c.plan = .perform e fun answer => (next answer).bind (answered c.template)) :
      Stage i c (⟨i, t, .lookUp c.template, known⟩ :: deeds)
  | failed {t : Timestamp} {known : Option Fis.Estimate} {deeds : List Deed} {e : ε}
      (missed : ∀ e, known = some e → ¬ c.lastUpdate ≤ e.createdAt)
      (fetch : Performs i (c.source.fetch c.template) deeds (.done (.error e)))
      (plan : c.plan = .done (.error e)) : Stage i c (⟨i, t, .lookUp c.template, known⟩ :: deeds)
  | fetched {t : Timestamp} {known : Option Fis.Estimate} {deeds : List Deed}
      {actions : Fis.TemplateActions} (missed : ∀ e, known = some e → ¬ c.lastUpdate ≤ e.createdAt)
      (fetch : Performs i (c.source.fetch c.template) deeds (.done (.ok actions)))
      (plan : c.plan = .perform (.record c.template actions.totalDuration) fun _ =>
        .done (.ok actions.totalDuration)) :
      Stage i c (⟨i, t, .lookUp c.template, known⟩ :: deeds)
  | kept {t t' : Timestamp} {known : Option Fis.Estimate} {deeds : List Deed}
      {actions : Fis.TemplateActions} (missed : ∀ e, known = some e → ¬ c.lastUpdate ≤ e.createdAt)
      (fetch : Performs i (c.source.fetch c.template) deeds (.done (.ok actions)))
      (plan : c.plan = .done (.ok actions.totalDuration)) :
      Stage i c (⟨i, t, .lookUp c.template, known⟩ :: deeds ++
        [⟨i, t', .record c.template actions.totalDuration, ()⟩])

theorem Performs.within {α : Type} {allowed : Effect → Prop} {i : Nat} {p q : Plan α}
    {deeds : List Deed} (h : Performs i p deeds q) (hp : p.Within allowed) :
    q.Within allowed ∧ ∀ d ∈ deeds, allowed d.effect := by
  induction h with
  | nothing => exact ⟨hp, by simp⟩
  | step _ time answer ih =>
    obtain ⟨going, done⟩ := ih
    cases going with
    | perform here later =>
      exact ⟨later answer, List.forall_mem_append.2 ⟨done, List.forall_mem_singleton.2 here⟩⟩

namespace Stage

variable {ε : Type} {i : Nat} {c : Inquiry ε} {deeds : List Deed}

theorem of_performs {t : Timestamp} {known : Option Fis.Estimate}
    {rest : Plan (Except ε Fis.TemplateActions)}
    (missed : ∀ e, known = some e → ¬ c.lastUpdate ≤ e.createdAt)
    (fetch : Performs i (c.source.fetch c.template) deeds rest)
    (plan : c.plan = rest.bind (answered c.template)) :
    Stage i c (⟨i, t, .lookUp c.template, known⟩ :: deeds) := by
  cases rest with
  | perform e next => exact .fetching missed fetch plan
  | done told =>
    cases told with
    | error e => exact .failed missed fetch plan
    | ok actions => exact .fetched missed fetch plan

theorem step {e : Effect} {next : e.Answer → Plan (Except ε Duration)} (h : Stage i c deeds)
    (going : c.plan = .perform e next) (t : Timestamp) (answer : e.Answer) :
    Stage i { c with plan := next answer } (deeds ++ [⟨i, t, e, answer⟩]) := by
  cases h with
  | begun plan =>
    rw [plan, estimate_eq] at going
    cases going
    change Option Fis.Estimate at answer
    by_cases found : ∃ e, answer = some e ∧ c.lastUpdate ≤ e.createdAt
    · obtain ⟨e, rfl, recent⟩ := found
      refine .served recent ?_
      simp [Fis.Estimate.fresh?, recent]
    · have missed : ∀ e, answer = some e → ¬ c.lastUpdate ≤ e.createdAt :=
        fun e same recent => found ⟨e, same, recent⟩
      have none : answer.bind (·.fresh? c.lastUpdate) = none := by
        cases answer with
        | none => rfl
        | some e => simp [Fis.Estimate.fresh?, missed e rfl]
      refine .of_performs missed .nothing ?_
      simp only [none]
  | served _ plan | failed _ _ plan | kept _ _ plan =>
    rw [plan] at going
    cases going
  | fetching missed fetch plan =>
    rw [plan] at going
    cases going
    exact .of_performs missed (fetch.step t answer) rfl
  | fetched missed fetch plan =>
    rw [plan] at going
    cases going
    exact .kept missed fetch rfl

theorem of_kept (h : Stage i c deeds) {d : Deed} (mem : d ∈ deeds) {template : String}
    {e : Fis.Estimate} (kept : d.kept? = some (template, e)) :
    template = c.template ∧ c.plan = .done (.ok e.duration) ∧
      ∃ fetch actions, Performs i (c.source.fetch c.template) fetch (.done (.ok actions)) ∧
        (∀ d ∈ fetch, d ∈ deeds) ∧ e.duration = actions.totalDuration := by
  -- nothing is put in while the actions are fetched
  have outward {fetch : List Deed} {rest} (h : Performs i (c.source.fetch c.template) fetch rest)
      (mem : d ∈ fetch) : False := by
    have here := (h.within (c.source.outward _)).2 d mem
    obtain ⟨j, t, effect, answer⟩ := d
    cases effect <;> simp [Deed.kept?, Outward] at kept here
  cases h with
  | begun => cases mem
  | served =>
    obtain rfl := List.mem_singleton.1 mem
    cases kept
  | fetching _ fetch | failed _ fetch | fetched _ fetch =>
    rcases List.mem_cons.1 mem with rfl | mem
    · cases kept
    · exact (outward fetch mem).elim
  | kept _ fetch plan =>
    rcases List.mem_append.1 mem with mem | mem
    · rcases List.mem_cons.1 mem with rfl | mem
      · cases kept
      · exact (outward fetch mem).elim
    · obtain rfl := List.mem_singleton.1 mem
      cases kept
      exact ⟨rfl, plan, _, _, fetch, fun d mem => by simp [mem], rfl⟩

theorem keeps_own {template : String} {d : Duration} {next : Unit → Plan (Except ε Duration)}
    (h : Stage i c deeds) (going : c.plan = .perform (.record template d) next) :
    template = c.template := by
  cases h with
  | begun plan =>
    rw [plan, estimate_eq] at going
    cases going
  | served _ plan | failed _ _ plan | kept _ _ plan =>
    rw [plan] at going
    cases going
  | fetching _ fetch plan =>
    rw [plan] at going
    cases going
    have within := (fetch.within (c.source.outward _)).1
    cases within with
    | perform here => cases here
  | fetched _ _ plan =>
    rw [plan] at going
    cases going
    rfl

end Stage

theorem remembered_concat (history : List Deed) (d : Deed) : remembered (history ++ [d]) =
    match d.kept? with
    | some (template, e) => (remembered history).insert template e
    | none => remembered history := by
  unfold remembered
  rw [List.filterMap_append]
  cases kept : d.kept? with
  | none => simp [kept]
  | some e => simp [kept, Dictionary.ofList_concat]

variable {ε W : Type} {cloud : Cloud W}

theorem durations_perform {history : List Deed} {s : Scene W} (h : s.durations = remembered history)
    (i : Nat) (e : Effect) : (cloud.perform e s).2.durations =
      remembered (history ++ [⟨i, cloud.calendar s.world, e, (cloud.perform e s).1⟩]) := by
  rw [remembered_concat]
  cases e with
  | send access request =>
    rw [durations_send]
    exact h
  | record template duration =>
    rw [← h]
    rfl
  | lookUp | clock | freshId => exact h

theorem finds_perform {history : List Deed} {s : Scene W} (h : s.durations = remembered history)
    (i : Nat) (e : Effect) :
    Deed.Finds history ⟨i, cloud.calendar s.world, e, (cloud.perform e s).1⟩ := by
  cases e with
  | lookUp template => exact congrArg (·.get? template) h
  | send | record | clock | freshId => trivial

namespace Sharing

theorem turn_cases (cloud : Cloud W) (i : Nat) (s : Sharing ε W) : s.turn cloud i = s ∨
    ∃ c e next, s.inquiries[i]? = some c ∧ c.plan = .perform e next ∧ s.turn cloud i =
      { scene := (cloud.perform e s.scene).2
        inquiries := s.inquiries.set i { c with plan := next (cloud.perform e s.scene).1 }
        history := s.history ++
          [⟨i, cloud.calendar s.scene.world, e, (cloud.perform e s.scene).1⟩] } := by
  unfold turn
  split
  · exact .inl rfl
  · rename_i c hc
    cases plan : c.plan with
    | done r => exact .inl rfl
    | perform e next => exact .inr ⟨c, e, next, hc, plan, rfl⟩

theorem deeds_concat_of_ne {s : Sharing ε W} {i : Nat} {d : Deed} (other : d.inquiry ≠ i) :
    (s.history ++ [d]).filter (·.inquiry = i) = s.deeds i := by
  simp [deeds, other]

structure Sound (s : Sharing ε W) : Prop where
  durations : s.scene.durations = remembered s.history
  finds : ∀ before d, before ++ [d] <+: s.history → d.Finds before
  asked : ∀ d ∈ s.history, d.inquiry < s.inquiries.length
  stages : ∀ (i : Nat) c, s.inquiries[i]? = some c → Stage i c (s.deeds i)

namespace Sound

variable {s : Sharing ε W}

theorem ask (h : s.Sound) (source : Source ε) (template : String) (lastUpdate : Timestamp) :
    (s.apply cloud (.ask source template lastUpdate)).Sound where
  durations := h.durations
  finds := h.finds
  asked d mem := by
    have before := h.asked d mem
    simp only [apply, List.length_append, List.length_singleton]
    omega
  stages i c hc := by
    simp only [apply, List.getElem?_append] at hc
    split at hc
    · exact h.stages i c hc
    · rename_i fresh
      have none : s.deeds i = [] := by
        refine List.filter_eq_nil_iff.2 fun d mem same => fresh ?_
        rw [← of_decide_eq_true same]
        exact h.asked d mem
      rw [List.getElem?_singleton] at hc
      split at hc
      · cases hc
        change Stage i _ (s.deeds i)
        rw [none]
        exact .begun rfl
      · cases hc

theorem turn (h : s.Sound) (i : Nat) : (s.turn cloud i).Sound := by
  obtain same | ⟨c, e, next, hc, plan, stepped⟩ := turn_cases cloud i s
  · rw [same]
    exact h
  · rw [stepped]
    constructor
    · exact durations_perform h.durations i e
    · intro before d within
      rcases List.prefix_concat_iff.1 within with last | within
      · obtain ⟨rfl, newest⟩ := List.append_inj' last rfl
        obtain rfl := List.singleton_inj.1 newest
        exact finds_perform h.durations i e
      · exact h.finds before d within
    · simp only [List.length_set]
      refine List.forall_mem_append.2 ⟨h.asked, List.forall_mem_singleton.2 ?_⟩
      exact (List.getElem?_eq_some_iff.1 hc).1
    · -- the step is a deed of this inquiry alone
      intro j c' hc'
      change Stage j c' ((s.history ++ [_]).filter (·.inquiry = j))
      rw [List.getElem?_set] at hc'
      by_cases same : i = j
      · subst same
        rw [if_pos rfl] at hc'
        split at hc'
        · cases hc'
          have led := (h.stages i c hc).step plan (cloud.calendar s.scene.world)
            (cloud.perform e s.scene).1
          simpa [deeds] using led
        · cases hc'
      · rw [if_neg same] at hc'
        rw [deeds_concat_of_ne same]
        exact h.stages j c' hc'

end Sound

theorem sound (cloud : Cloud W) (world : W) (moves : List (Move ε W)) :
    (after cloud world moves).Sound := by
  induction moves using List.reverseRecOn with
  | nil => exact ⟨rfl, by simp [after], by simp [after], by simp [after]⟩
  | append_singleton moves move h =>
    rw [after, List.foldl_concat]
    cases move with
    | ask source template lastUpdate => exact Sound.ask h source template lastUpdate
    | turn i => exact Sound.turn h i
    | change world => exact ⟨h.durations, h.finds, h.asked, h.stages⟩

def Estimated (s : Sharing ε W) (template : String) (d : Duration) : Prop :=
  ∃ (i : Nat) (c : Inquiry ε) (fetch : List Deed) (actions : Fis.TemplateActions),
    s.inquiries[i]? = some c ∧ c.template = template ∧ c.returned? = some d ∧
    Performs i (c.source.fetch template) fetch (.done (.ok actions)) ∧
    (∀ deed ∈ fetch, deed ∈ s.deeds i) ∧ d = actions.totalDuration

namespace Sound

variable {s : Sharing ε W}

theorem estimated_of_kept (h : s.Sound) {template : String} {e : Fis.Estimate}
    (mem : (template, e) ∈ s.history.filterMap Deed.kept?) : s.Estimated template e.duration := by
  obtain ⟨deed, done, kept⟩ := List.mem_filterMap.1 mem
  have hc := List.getElem?_eq_getElem (h.asked deed done)
  have own : deed ∈ s.deeds deed.inquiry := List.mem_filter.2 ⟨done, decide_eq_true rfl⟩
  obtain ⟨rfl, plan, fetch, actions, performed, among, same⟩ :=
    (h.stages _ _ hc).of_kept own kept
  have returned := Inquiry.returned?_eq_some_iff.2 plan
  exact ⟨_, _, fetch, actions, hc, rfl, returned, performed, among, same⟩

theorem estimated_of_returned (h : s.Sound) {i : Nat} {c : Inquiry ε} {d : Duration}
    (hc : s.inquiries[i]? = some c) (given : c.returned? = some d) :
    s.Estimated c.template d := by
  have returned := Inquiry.returned?_eq_some_iff.1 given
  have stage := h.stages i c hc
  generalize own : s.deeds i = deeds at stage
  cases stage with
  | begun plan =>
    rw [plan, estimate_eq] at returned
    cases returned
  | @served t e _ plan =>
    -- what was looked up had been put in before
    rw [plan] at returned
    cases returned
    have looked : (⟨i, t, .lookUp c.template, some e⟩ : Deed) ∈ s.history :=
      List.mem_of_mem_filter (own ▸ List.mem_singleton_self _)
    obtain ⟨before, rest, parts⟩ := List.append_of_mem looked
    have found : some e = (remembered before).get? c.template :=
      h.finds before ⟨i, t, .lookUp c.template, some e⟩ ⟨rest, by rw [parts]; simp⟩
    apply h.estimated_of_kept
    rw [parts, List.filterMap_append]
    exact List.mem_append_left _ (Dictionary.mem_of_get?_ofList found.symm)
  | fetching _ _ plan | failed _ _ plan | fetched _ _ plan =>
    rw [plan] at returned
    cases returned
  | kept _ fetch plan =>
    rw [plan] at returned
    cases returned
    exact ⟨i, c, _, _, hc, rfl, given, fetch, fun d mem => by rw [own]; simp [mem], rfl⟩

theorem get?_apply (h : s.Sound) (move : Move ε W) (template : String) :
    (s.apply cloud move).scene.durations.get? template = s.scene.durations.get? template ∨
      ∃ (i : Nat) (c : Inquiry ε) (d : Duration) (next : Unit → Plan (Except ε Duration)),
        move = .turn i ∧ s.inquiries[i]? = some c ∧ c.template = template ∧
        c.plan = .perform (.record template d) next ∧
        (s.apply cloud move).scene.durations.get? template =
          some ⟨cloud.calendar s.scene.world, d⟩ := by
  cases move with
  | ask | change => exact .inl rfl
  | turn i =>
    change (s.turn cloud i).scene.durations.get? template = _ ∨ ∃ i' c d next, Move.turn i = Move.turn i' ∧
      _ ∧ _ ∧ _ ∧ (s.turn cloud i).scene.durations.get? template = _
    obtain same | ⟨c, e, next, hc, plan, stepped⟩ := turn_cases cloud i s
    · left
      rw [same]
    · rw [stepped]
      cases e with
      | send access request =>
        left
        exact congrArg (·.get? template) (durations_send cloud access request s.scene)
      | lookUp | clock | freshId => exact .inl rfl
      | record own d =>
        have kept : (cloud.perform (.record own d) s.scene).2.durations.get? template =
            if own = template then some ⟨cloud.calendar s.scene.world, d⟩
            else s.scene.durations.get? template := Dictionary.get?_insert _ _ _ _
        by_cases same : own = template
        · subst same
          rw [if_pos rfl] at kept
          exact .inr ⟨i, c, d, next, rfl, hc, ((h.stages i c hc).keeps_own plan).symm, plan, kept⟩
        · rw [if_neg same] at kept
          exact .inl kept

end Sound

end Sharing

theorem run_estimate_of_recent {s : Scene W} {template : String} {lastUpdate : Timestamp}
    {e : Fis.Estimate} (known : s.durations.get? template = some e)
    (recent : lastUpdate ≤ e.createdAt) (fetch : Plan (Except ε Fis.TemplateActions)) :
    cloud.run (estimate fetch template lastUpdate) s = (.ok e.duration, s) := by
  have looked : cloud.perform (.lookUp template) s = (some e, s) := by rw [← known]; rfl
  unfold Cloud.run
  rw [estimate_eq, Plan.run, looked]
  simp [Fis.Estimate.fresh?, recent, Plan.run]

/-- However inquiries are interleaved: each looks up once, and then fetches once or not at all, by what it
found; what is returned was fetched for the same template; and what is remembered is what was put in last,
by an inquiry that had fetched it. -/
theorem shared_estimates_sound (cloud : Cloud W) (world : W) (moves : List (Sharing.Move ε W)) :
    let s := Sharing.after cloud world moves
    (∀ (i : Nat) c, s.inquiries[i]? = some c → Stage i c (s.deeds i)) ∧
    (∀ before deed, before ++ [deed] <+: s.history → deed.Finds before) ∧
    (∀ (i : Nat) c d, s.inquiries[i]? = some c → c.returned? = some d → s.Estimated c.template d) ∧
    s.scene.durations = remembered s.history ∧
    (∀ template e, (template, e) ∈ s.history.filterMap Deed.kept? →
      s.Estimated template e.duration) ∧
    s.scene.durations.size = ((s.history.filterMap Deed.kept?).map Prod.fst).dedup.length ∧
    (∀ move template,
      (s.apply cloud move).scene.durations.get? template = s.scene.durations.get? template ∨
      ∃ (i : Nat) (c : Inquiry ε) (d : Duration) (next : Unit → Plan (Except ε Duration)),
        move = .turn i ∧ s.inquiries[i]? = some c ∧ c.template = template ∧
        c.plan = .perform (.record template d) next ∧
        (s.apply cloud move).scene.durations.get? template =
          some ⟨cloud.calendar s.scene.world, d⟩) ∧
    ∀ (template : String) (e : Fis.Estimate) (lastUpdate : Timestamp) (source : Source ε) (changed : W),
      s.scene.durations.get? template = some e → lastUpdate ≤ e.createdAt →
      cloud.run (estimate (source.fetch template) template lastUpdate) { s.scene with world := changed } =
        (.ok e.duration, { s.scene with world := changed }) := by
  intro s
  have h : s.Sound := Sharing.sound cloud world moves
  refine ⟨h.stages, h.finds, fun i c d => h.estimated_of_returned, h.durations,
    fun template e => h.estimated_of_kept, ?_, h.get?_apply, ?_⟩
  · rw [h.durations]
    exact Dictionary.size_ofList _
  · intro template e lastUpdate source changed known recent
    exact run_estimate_of_recent (s := { s.scene with world := changed }) known recent _

def Source.account (a : Access) : Source Inventory.FetchError where
  fetch := fetchActions a
  outward template := by
    refine Plan.Within.bind (.effect trivial) fun answer => ?_
    split <;> exact .pure _

namespace overlapping

def source : Source Inventory.FetchError := .account { number := 0, account := "1", region := "eu" }

def replaced : Archive := opening.replace "t" (lasting "PT2S")

/-- Both fetch the actions, and between that a template is replaced. The first to fetch puts its estimate
in last. -/
def moves : List (Sharing.Move Inventory.FetchError Archive) :=
  [.ask source "t" ⟨1⟩, .ask source "t" ⟨1⟩, .turn 0, .turn 1, .turn 0, .change replaced, .turn 1, .turn 1,
    .turn 0]

def result : Sharing Inventory.FetchError Archive := Sharing.after Archive.cloud opening moves

def second : Duration := ⟨10 ^ 9, by decide⟩

theorem estimates_sound : (∃ c, result.inquiries[0]? = some c ∧ c.returned? = some second ∧
      result.Estimated c.template second) ∧
    result.scene.durations.size = 1 ∧
    result.scene.durations.get? "t" = some ⟨⟨1⟩, second⟩ ∧
    Archive.cloud.run (estimate (source.fetch "t") "t" ⟨1⟩) { result.scene with world := replaced } =
      (.ok second, { result.scene with world := replaced }) := by
  obtain ⟨_, _, returned, _, _, size, _, again⟩ := shared_estimates_sound Archive.cloud opening moves
  have known : result.scene.durations.get? "t" = some ⟨⟨1⟩, second⟩ := by decide +kernel
  refine ⟨?_, ?_, known, again "t" ⟨⟨1⟩, second⟩ ⟨1⟩ source replaced known (by decide)⟩
  · obtain ⟨c, hc⟩ : ∃ c, result.inquiries[0]? = some c := Option.isSome_iff_exists.1 (by decide +kernel)
    have given : c.returned? = some second := by
      have answer : result.inquiries[0]?.map Inquiry.returned? = some (some second) := by decide +kernel
      rw [hc] at answer
      exact Option.some.inj answer
    exact ⟨c, hc, given, returned 0 c second hc given⟩
  · refine size.trans ?_
    decide +kernel

end overlapping

end Estimates

end GameDay
