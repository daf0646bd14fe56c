import GameDay.Proofs.Estimates.Traffic
import Mathlib.Data.List.Infix

namespace GameDay.Estimates

open Cloud (Plan)
open Inventory (FetchError estimate fetchActions)
open Traffic (after)

def answered {ε : Type} (template : String) :
    Except ε Fis.TemplateActions → Plan (Except ε Duration)
  | .error e => .done (.error e)
  | .ok actions => .perform (.record template actions.totalDuration) fun _ =>
      .done (.ok actions.totalDuration)

theorem estimate_eq {ε : Type} (fetch : Plan (Except ε Fis.TemplateActions)) (template : String)
    (lastUpdate : Timestamp) :
    estimate fetch template lastUpdate = .perform (.lookUp template) fun known =>
      match known.bind (·.fresh? lastUpdate) with
      | some d => .done (.ok d)
      | none => fetch.bind (answered template) := by
  refine congrArg (Plan.perform _) (funext fun known => ?_)
  simp only [Plan.bind]
  cases known.bind (·.fresh? lastUpdate) with
  | some d => rfl
  | none => exact congrArg fetch.bind (funext fun fetched => by cases fetched <;> rfl)

theorem fetch_eq (access : Access) (template : String) :
    (fetchActions access template).bind (answered template) =
      .perform (.send access (.getTemplate template)) fun
        | .error e => .done (.error (.refused template e))
        | .ok none => .done (.error (.notReturned template))
        | .ok (some t) => answered template (.ok t.toActions) := by
  refine congrArg (Plan.perform _) (funext fun answer => ?_)
  rcases answer with e | _ | t <;> rfl

variable {first : Archive} {moves : List Move}

structure Missed (first : Archive) (moves : List Move) (i : Nat) (f r : List Move)
    (template : String) (d : Duration) : Prop where
  fetched : f ++ [.turn i] <+: r
  kept : r ++ [.turn i] <+: moves
  fetching : (after first f).Fetching i template
  keeping : (after first r).Keeping i template d
  shows : (after first f).current? template = some d

inductive Progress (first : Archive) (moves : List Move) (i : Nat) (c : Call) : Prop
  | begun (plan : c.plan = estimate (fetchActions c.access c.template) c.template c.lastUpdate)
  | fetching (plan : c.plan = (fetchActions c.access c.template).bind (answered c.template))
  | keeping {f : List Move} {d : Duration} (fetched : f ++ [.turn i] <+: moves)
      (fetching : (after first f).Fetching i c.template)
      (shows : (after first f).current? c.template = some d)
      (plan : c.plan = .perform (.record c.template d) fun _ => .done (.ok d))
  | returned {j : Nat} {f r : List Move} {d : Duration}
      (missed : Missed first moves j f r c.template d) (recent : c.lastUpdate ≤ (after first r).now)
      (plan : c.plan = .done (.ok d))
  | failed {e : FetchError} (plan : c.plan = .done (.error e))

/-- Estimates that are remembered were put in after a fetch, and calls know of no update to come. -/
structure Known (first : Archive) (moves : List Move) : Prop where
  entries : ∀ template e, (after first moves).scene.durations.get? template = some e →
    ∃ i f r, Missed first moves i f r template e.duration ∧ (after first r).now = e.createdAt
  recent : ∀ (i : Nat) c, (after first moves).calls[i]? = some c →
    c.lastUpdate ≤ (after first moves).now
  progress : ∀ (i : Nat) c, (after first moves).calls[i]? = some c → Progress first moves i c

theorem Missed.mono {i : Nat} {f r more : List Move} {template : String} {d : Duration}
    (h : Missed first moves i f r template d) (longer : moves <+: more) :
    Missed first more i f r template d :=
  { h with kept := h.kept.trans longer }

theorem Progress.mono {i : Nat} {c : Call} {more : List Move} (h : Progress first moves i c)
    (longer : moves <+: more) : Progress first more i c := by
  cases h with
  | begun plan => exact .begun plan
  | fetching plan => exact .fetching plan
  | keeping fetched fetching shows plan =>
    exact .keeping (fetched.trans longer) fetching shows plan
  | returned missed recent plan => exact .returned (missed.mono longer) recent plan
  | failed plan => exact .failed plan

theorem Known.concat (k : Known first moves) (move : Move)
    (entries : ∀ template e,
      ((after first moves).apply move).scene.durations.get? template = some e →
      (after first moves).scene.durations.get? template = some e ∨
        ∃ i f r, Missed first (moves ++ [move]) i f r template e.duration ∧
          (after first r).now = e.createdAt)
    (calls : ∀ (i : Nat) c, ((after first moves).apply move).calls[i]? = some c →
      (after first moves).calls[i]? = some c ∨
        c.lastUpdate ≤ (after first moves).now ∧ Progress first (moves ++ [move]) i c) :
    Known first (moves ++ [move]) := by
  have longer : moves <+: moves ++ [move] := List.prefix_append _ _
  have later := Traffic.now_mono first longer
  constructor
  · intro template e he
    rw [Traffic.after_concat] at he
    rcases entries template e he with he | he
    · obtain ⟨i, f, r, missed, created⟩ := k.entries template e he
      exact ⟨i, f, r, missed.mono longer, created⟩
    · exact he
  · intro i c hc
    rw [Traffic.after_concat] at hc
    have recent : c.lastUpdate ≤ (after first moves).now := by
      rcases calls i c hc with hc | hc
      · exact k.recent i c hc
      · exact hc.1
    rw [Timestamp.le_iff] at *
    omega
  · intro i c hc
    rw [Traffic.after_concat] at hc
    rcases calls i c hc with hc | hc
    · exact (k.progress i c hc).mono longer
    · exact hc.2

theorem turn_eq {s : Traffic} {i : Nat} {c : Call} {e : Cloud.Effect}
    {next : e.Answer → Plan (Except FetchError Duration)} (hc : s.calls[i]? = some c)
    (plan : c.plan = .perform e next) :
    s.turn i = ⟨(Archive.cloud.perform e s.scene).2,
      s.calls.set i { c with plan := next (Archive.cloud.perform e s.scene).1 }⟩ := by
  unfold Traffic.turn
  rw [hc]
  simp only
  rw [plan]

theorem turn_eq_self {s : Traffic} {i : Nat} (h : ∀ c, s.calls[i]? = some c → ∃ r, c.plan = .done r) :
    s.turn i = s := by
  unfold Traffic.turn
  split
  · rfl
  · rename_i c hc
    obtain ⟨r, plan⟩ := h c hc
    rw [plan]

theorem Known.turn_of (k : Known first moves) {i : Nat} {c : Call} {e : Cloud.Effect}
    {next : e.Answer → Plan (Except FetchError Duration)}
    (hc : (after first moves).calls[i]? = some c) (plan : c.plan = .perform e next)
    (entries : ∀ template entry,
      (Archive.cloud.perform e (after first moves).scene).2.durations.get? template = some entry →
      (after first moves).scene.durations.get? template = some entry ∨
        ∃ i' f r, Missed first (moves ++ [.turn i]) i' f r template entry.duration ∧
          (after first r).now = entry.createdAt)
    (progress : Progress first (moves ++ [.turn i]) i
      { c with plan := next (Archive.cloud.perform e (after first moves).scene).1 }) :
    Known first (moves ++ [.turn i]) := by
  apply k.concat
  · intro template entry he
    rw [Traffic.apply, turn_eq hc plan] at he
    exact entries template entry he
  · intro j c' hc'
    rw [Traffic.apply, turn_eq hc plan, List.getElem?_set] at hc'
    split at hc'
    · rename_i same
      split at hc'
      · cases hc'
        subst same
        exact .inr ⟨k.recent i c hc, progress⟩
      · cases hc'
    · exact .inl hc'

theorem durations_send {W : Type} (cloud : Cloud W) (access : Access) (request : Cloud.Request)
    (s : Cloud.Scene W) : (cloud.perform (.send access request) s).2.durations = s.durations := by
  change (cloud.sendNoted access request s).2.durations = _
  unfold Cloud.sendNoted
  split <;> rfl

theorem template_of_send {access : Access} {template : String} {s : Cloud.Scene Archive}
    {found : Option Cloud.Template}
    (h : (Archive.cloud.perform (.send access (.getTemplate template)) s).1 = .ok found) :
    found = s.world.template template := by
  change (Archive.cloud.sendNoted access (.getTemplate template) s).1 = _ at h
  unfold Cloud.sendNoted at h
  split at h
  · simp only [Archive.cloud] at h
    split at h
    · cases h
    · cases h
      rfl
  · cases h

theorem Known.turn (k : Known first moves) (i : Nat) : Known first (moves ++ [.turn i]) := by
  have idle (h : ∀ c, (after first moves).calls[i]? = some c → ∃ r, c.plan = .done r) :
      Known first (moves ++ [.turn i]) := by
    have same : (after first moves).apply (.turn i) = after first moves := turn_eq_self h
    apply k.concat
    · intro template e he
      rw [same] at he
      exact .inl he
    · intro j c hc
      rw [same] at hc
      exact .inl hc
  cases hc : (after first moves).calls[i]? with
  | none => exact idle (by simp [hc])
  | some c =>
    cases k.progress i c hc with
    | returned _ _ plan | failed plan =>
      apply idle
      rintro c' hc'
      rw [hc] at hc'
      cases hc'
      exact ⟨_, plan⟩
    | begun plan =>
      rw [estimate_eq] at plan
      apply k.turn_of hc plan fun _ _ he => .inl he
      -- what is looked up is either new enough, or the actions are fetched
      change Progress _ _ _ { c with plan := match
        ((after first moves).scene.durations.get? c.template).bind (·.fresh? c.lastUpdate) with
        | some d => .done (.ok d)
        | none => (fetchActions c.access c.template).bind (answered c.template) }
      cases he : (after first moves).scene.durations.get? c.template with
      | none => exact .fetching rfl
      | some e =>
        by_cases new : c.lastUpdate ≤ e.createdAt
        · obtain ⟨j, f, r, missed, created⟩ := k.entries _ _ he
          refine .returned (missed.mono (List.prefix_append _ _)) (by rwa [created]) ?_
          simp [Fis.Estimate.fresh?, new]
        · refine .fetching ?_
          simp [Fis.Estimate.fresh?, new]
    | fetching plan =>
      rw [fetch_eq] at plan
      apply k.turn_of hc plan
      · intro template e he
        rw [durations_send] at he
        exact .inl he
      · cases told : (Archive.cloud.perform (.send c.access (.getTemplate c.template))
          (after first moves).scene).1 with
        | error e => exact .failed rfl
        | ok found =>
          cases found with
          | none => exact .failed rfl
          | some t =>
            have kept : (after first moves).scene.world.template c.template = some t :=
              (template_of_send told).symm
            exact .keeping (List.prefix_refl _) ⟨c, _, hc, plan⟩ (by rw [Traffic.current?, kept]; rfl) rfl
    | keeping fetched fetching shows plan =>
      have missed : Missed first (moves ++ [.turn i]) i _ moves c.template _ :=
        ⟨fetched, List.prefix_refl _, fetching, ⟨c, _, hc, plan⟩, shows⟩
      apply k.turn_of hc plan
      · intro template e he
        change (Dictionary.insert _ _ _).get? template = _ at he
        rw [Dictionary.get?_insert] at he
        split at he
        · rename_i same
          cases he
          subst same
          exact .inr ⟨i, _, moves, missed, rfl⟩
        · exact .inl he
      · exact .returned missed (k.recent i c hc) rfl

theorem known (first : Archive) (moves : List Move) : Known first moves := by
  induction moves using List.reverseRecOn with
  | nil =>
    constructor
    · intro template e he
      simp [Traffic.after] at he
    · intro i c hc
      simp [Traffic.after] at hc
    · intro i c hc
      simp [Traffic.after] at hc
  | append_singleton moves move k =>
    cases move with
    | turn i => exact k.turn i
    | update | pass | outage =>
      exact k.concat _ (fun _ _ he => .inl he) fun _ _ hc => .inl hc
    | call access template lastUpdate =>
      apply k.concat
      · intro id e he
        simp only [Traffic.apply] at he
        split at he <;> exact .inl he
      · intro i c hc
        simp only [Traffic.apply] at hc
        split at hc
        · rename_i recent
          rw [List.getElem?_append] at hc
          split at hc
          · exact .inl hc
          · rw [List.getElem?_singleton] at hc
            split at hc
            · cases hc
              exact .inr ⟨recent, .begun rfl⟩
            · cases hc
        · exact .inl hc

/-- Between the fetch and the putting in of an estimate, its template was replaced, before a time. -/
def ReplacedBefore (first : Archive) (f r : List Move) (template : String) (u : Timestamp) : Prop :=
  ∃ m, f <+: m ∧ m <+: r ∧ (after first m).revision template ≠ (after first f).revision template ∧
    ¬ u ≤ (after first m).now

theorem in_force_of_not_replaced {f rest : List Move} {template : String} {u : Timestamp}
    (reached : u ≤ (after first (f ++ rest)).now)
    (kept : ¬ ReplacedBefore first f (f ++ rest) template u) :
    ∃ m, m <+: f ++ rest ∧ f <+: m ∧ u ≤ (after first m).now ∧
      (after first m).revision template = (after first f).revision template := by
  induction rest using List.reverseRecOn with
  | nil => exact ⟨f, by simp, List.prefix_refl _, by simpa using reached, rfl⟩
  | append_singleton rest move ih =>
    rw [← List.append_assoc] at reached kept ⊢
    have longer : f ++ rest <+: f ++ rest ++ [move] := List.prefix_append _ _
    by_cases last : (after first (f ++ rest ++ [move])).revision template =
        (after first f).revision template
    · exact ⟨_, List.prefix_refl _, (List.prefix_append _ _).trans longer, reached, last⟩
    -- The last move replaced the template or came after that, so the time was reached before it.
    · have before : u ≤ (after first (f ++ rest)).now := by
        by_cases same : (after first (f ++ rest)).revision template =
            (after first f).revision template
        · rw [Traffic.after_concat] at last reached
          rwa [Traffic.now_apply_of_revision_ne (by rwa [same])] at reached
        · by_contra early
          exact kept ⟨f ++ rest, List.prefix_append _ _, longer, same, early⟩
      obtain ⟨m, hm, hf, hu, hr⟩ := ih before fun ⟨m, hf, hm, hr, hu⟩ =>
        kept ⟨m, hf, hm.trans longer, hr, hu⟩
      exact ⟨m, hm.trans longer, hf, hu, hr⟩

theorem not_in_force_of_replaced {f r m : List Move} {template : String} {u : Timestamp}
    (kept : r <+: moves) (replaced : ReplacedBefore first f r template u) (hm : m <+: moves)
    (hu : u ≤ (after first m).now) :
    (after first m).revision template ≠ (after first f).revision template := by
  obtain ⟨m', hf, hr, other, early⟩ := replaced
  rcases List.prefix_or_prefix_of_prefix hm (hr.trans kept) with sooner | later
  · have := Traffic.now_mono first sooner
    rw [Timestamp.le_iff] at *
    omega
  · have first' := (Traffic.template_mono first hf template).1
    have second := (Traffic.template_mono first later template).1
    omega

/-- An estimate that is returned was made from actions that were fetched before it was put in. Unless
they had been replaced then before the given time, they were in force at a moment not before it, and
otherwise at none. -/
theorem returned_current_unless_replaced (first : Archive) (moves : List Move) {i : Nat} {c : Call}
    {d : Duration} (hc : (after first moves).calls[i]? = some c) (returned : c.returned? = some d) :
    ∃ j f r, Missed first moves j f r c.template d ∧
      (¬ ReplacedBefore first f r c.template c.lastUpdate →
        ∃ m, m <+: moves ∧ c.lastUpdate ≤ (after first m).now ∧
          (after first m).current? c.template = some d) ∧
      (ReplacedBefore first f r c.template c.lastUpdate →
        ∀ m, m <+: moves → c.lastUpdate ≤ (after first m).now →
          (after first m).revision c.template ≠ (after first f).revision c.template) := by
  unfold Call.returned? at returned
  cases (known first moves).progress i c hc with
  | begun plan => simp [plan, estimate_eq] at returned
  | fetching plan => simp [plan, fetch_eq] at returned
  | keeping _ _ _ plan => simp [plan] at returned
  | failed plan => simp [plan] at returned
  | @returned j f r d' missed recent plan =>
    rw [plan] at returned
    cases returned
    have whole : r <+: moves := (List.prefix_append _ _).trans missed.kept
    refine ⟨j, f, r, missed, fun kept => ?_, fun replaced m hm hu =>
      not_in_force_of_replaced whole replaced hm hu⟩
    obtain ⟨rest, rfl⟩ : f <+: r := (List.prefix_append _ _).trans missed.fetched
    obtain ⟨m, hm, hf, hu, same⟩ := in_force_of_not_replaced recent kept
    refine ⟨m, hm.trans whole, hu, ?_⟩
    rw [Traffic.current?, (Traffic.template_mono first hf c.template).2 same]
    exact missed.shows

def lasting (time : String) : Cloud.Template where
  actions := .ofList
    [("wait", { parameters := .ofList [(Cloud.Template.durationParameter, time)] })]

def opening : Archive where
  now := ⟨1⟩
  template _ := some (lasting "PT1S")

/-- A template is replaced twice between the fetch of a call and the end of it. The next call knows of
the last update. -/
def race : List Move :=
  let access : Access := { number := 0, account := "1", region := "eu" }
  let nanosecond : Duration := ⟨1, by decide⟩
  [.call access "t" ⟨1⟩, .turn 0, .turn 0, .pass nanosecond, .update "t" (lasting "PT2S"),
    .pass nanosecond, .update "t" (lasting "PT3S"), .pass nanosecond, .turn 0,
    .call access "t" ⟨3⟩, .turn 1]

theorem returned_race : ∃ c, (after opening race).calls[1]? = some c ∧ c.template = "t" ∧
    c.lastUpdate = ⟨3⟩ ∧ c.returned? = some ⟨10 ^ 9, by decide⟩ := by
  obtain ⟨c, hc⟩ : ∃ c, (after opening race).calls[1]? = some c :=
    Option.isSome_iff_exists.1 (by decide +kernel)
  have call : (after opening race).calls[1]?.map (fun c => (c.template, c.lastUpdate, c.returned?)) =
      some ("t", ⟨3⟩, some ⟨10 ^ 9, by decide⟩) := by
    decide +kernel
  rw [hc, Option.map_some, Option.some.injEq, Prod.mk.injEq, Prod.mk.injEq] at call
  exact ⟨c, hc, call⟩

theorem race_current_unless_replaced : ∃ c d, (after opening race).calls[1]? = some c ∧
    c.returned? = some d ∧ ∃ j f r, Missed opening race j f r c.template d ∧
      (¬ ReplacedBefore opening f r c.template c.lastUpdate →
        ∃ m, m <+: race ∧ c.lastUpdate ≤ (after opening m).now ∧
          (after opening m).current? c.template = some d) ∧
      (ReplacedBefore opening f r c.template c.lastUpdate →
        ∀ m, m <+: race → c.lastUpdate ≤ (after opening m).now →
          (after opening m).revision c.template ≠ (after opening f).revision c.template) := by
  obtain ⟨c, hc, _, _, returned⟩ := returned_race
  exact ⟨c, _, hc, returned, returned_current_unless_replaced opening race hc returned⟩

/-- An estimate can be returned that was at no moment from the last update on that of the template. -/
theorem stale_estimate_returned : ¬ ∀ (first : Archive) (moves : List Move) (i : Nat) (c : Call)
    (d : Duration), (after first moves).calls[i]? = some c → c.returned? = some d →
      ∃ m, m <+: moves ∧ c.lastUpdate ≤ (after first m).now ∧
        (after first m).current? c.template = some d := by
  intro fresh
  obtain ⟨c, hc, template, lastUpdate, returned⟩ := returned_race
  obtain ⟨m, hm, hu, hd⟩ := fresh opening race 1 c _ hc returned
  rw [template] at hd
  rw [lastUpdate] at hu
  have never : ∀ m ∈ race.inits, ⟨3⟩ ≤ (after opening m).now →
      (after opening m).current? "t" ≠ some ⟨10 ^ 9, by decide⟩ := by
    decide +kernel
  exact never m ((List.mem_inits _ _).2 hm) hu hd

end GameDay.Estimates
