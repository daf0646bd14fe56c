import GameDay.Command.Offline
import GameDay.Proofs.Cloud.Paging
import GameDay.Proofs.Estimates.Staleness
import GameDay.Proofs.Inventory.Places

namespace GameDay

namespace Duration

theorem ne_empty_of_mem_item {amount : Nat} {unit text : String} (h : text ∈ item amount unit) : text ≠ "" := by
  unfold item at h
  split at h
  · cases h
  · rw [List.mem_singleton] at h
    rw [h, Ne, String.append_eq_empty_iff]
    exact fun empty => Nat.repr_ne_empty empty.1

theorem intercalate_ne_empty {texts : List String} (given : texts ≠ []) (h : ∀ text ∈ texts, text ≠ "") :
    String.intercalate " " texts ≠ "" := by
  cases texts with
  | nil => exact (given rfl).elim
  | cons first rest =>
    have begins := h first List.mem_cons_self
    cases rest with
    | nil => simpa using begins
    | cons second rest =>
      rw [String.intercalate_cons_cons, Ne, String.append_eq_empty_iff, String.append_eq_empty_iff]
      exact fun empty => begins empty.1.1

theorem inUnits_ne_empty (d : Duration) : d.inUnits ≠ "" := by
  unfold inUnits
  simp only
  split
  · decide
  · rename_i given
    refine intercalate_ne_empty given fun text mem => ?_
    simp only [List.mem_append, pluralItem] at mem
    rcases mem with (((((((mem | mem) | mem) | mem) | mem) | mem) | mem) | mem) | mem <;>
      exact ne_empty_of_mem_item mem

end Duration

namespace Inventory

open Cloud (Chained Listing Plan Request Scene TemplateSummary Visit complete sent)

variable {W : Type} {cloud : Cloud W} {a : Access} {s s' : Scene W} {t : TemplateSummary}

def inquiry? (t : TemplateSummary) : Option (String × Timestamp) :=
  match t.id, t.lastUpdate with
  | some id, some lastUpdate => some (id, lastUpdate)
  | _, _ => none

/-- Where the estimate of a template is taken from, and if it is a new one, when it was put in. -/
inductive Fate
  | unasked
  | remembered (e : Fis.Estimate)
  | fetched (template : Cloud.Template) (now : Timestamp)
  | unfetched

def Fate.duration? : Fate → Option Duration
  | remembered e => some e.duration
  | fetched template _ => some template.toActions.totalDuration
  | unasked | unfetched => none

structure Forecast where
  summary : TemplateSummary
  fate : Fate

namespace Forecast

def target (a : Access) (f : Forecast) : Target :=
  a.stamp <| match f.fate.duration? with
    | some d => addDuration d (templateTarget f.summary)
    | none => templateTarget f.summary

def wanted? (f : Forecast) : Option String :=
  match f.fate with
  | .fetched .. | .unfetched => f.summary.id
  | .unasked | .remembered _ => none

def calls (a : Access) (f : Forecast) : List (Access × Request) :=
  match f.wanted? with
  | some id => sent a (.getTemplate id)
  | none => []

def keep (cache : Fis.DurationCache) (f : Forecast) : Fis.DurationCache :=
  match f.fate, f.summary.id with
  | .fetched template now, some id => cache.record now id template.toActions.totalDuration
  | _, _ => cache

end Forecast

def Recent (cache : Fis.DurationCache) (id : String) (lastUpdate : Timestamp) : Prop :=
  ∃ e, cache.get? id = some e ∧ lastUpdate ≤ e.createdAt

inductive Forecast.Accords (cache : Fis.DurationCache) : Forecast → Prop
  | unasked {t : TemplateSummary} (asks : inquiry? t = none) : Accords cache ⟨t, .unasked⟩
  | remembered {t : TemplateSummary} {id : String} {lastUpdate : Timestamp} {e : Fis.Estimate}
      (asks : inquiry? t = some (id, lastUpdate)) (known : cache.get? id = some e)
      (recent : lastUpdate ≤ e.createdAt) : Accords cache ⟨t, .remembered e⟩
  | fetched {t : TemplateSummary} {id : String} {lastUpdate : Timestamp} {template : Cloud.Template}
      {now : Timestamp} (asks : inquiry? t = some (id, lastUpdate)) (missed : ¬ Recent cache id lastUpdate) :
      Accords cache ⟨t, .fetched template now⟩
  | unfetched {t : TemplateSummary} {id : String} {lastUpdate : Timestamp}
      (asks : inquiry? t = some (id, lastUpdate)) (missed : ¬ Recent cache id lastUpdate) :
      Accords cache ⟨t, .unfetched⟩

/-- One template after the other, each by what is remembered when it is its turn. -/
inductive Follows : Fis.DurationCache → List Forecast → Fis.DurationCache → Prop
  | nil (cache : Fis.DurationCache) : Follows cache [] cache
  | cons {cache cache' : Fis.DurationCache} {f : Forecast} {fs : List Forecast} (here : f.Accords cache)
      (rest : Follows (f.keep cache) fs cache') : Follows cache (f :: fs) cache'

inductive Estimating (cloud : Cloud W) (a : Access) :
    TemplateSummary → Scene W → Forecast → Scene W → Prop
  | unasked {t : TemplateSummary} {s : Scene W} (asks : inquiry? t = none) :
      Estimating cloud a t s ⟨t, .unasked⟩ s
  | remembered {t : TemplateSummary} {id : String} {lastUpdate : Timestamp} {e : Fis.Estimate} {s : Scene W}
      (asks : inquiry? t = some (id, lastUpdate)) (known : s.durations.get? id = some e)
      (recent : lastUpdate ≤ e.createdAt) : Estimating cloud a t s ⟨t, .remembered e⟩ s
  | fetched {t : TemplateSummary} {id : String} {lastUpdate : Timestamp} {template : Cloud.Template}
      {s s' : Scene W} (asks : inquiry? t = some (id, lastUpdate))
      (missed : ¬ Recent s.durations id lastUpdate)
      (answered : cloud.run (.send a (.getTemplate id)) s = (.ok (some template), s')) :
      Estimating cloud a t s ⟨t, .fetched template (cloud.calendar s'.world)⟩
        { s' with durations := s'.durations.record (cloud.calendar s'.world) id
                    template.toActions.totalDuration }
  | unfetched {t : TemplateSummary} {id : String} {lastUpdate : Timestamp}
      {answer : Except Cloud.ServiceError (Option Cloud.Template)} {s s' : Scene W}
      (asks : inquiry? t = some (id, lastUpdate)) (missed : ¬ Recent s.durations id lastUpdate)
      (answered : cloud.run (.send a (.getTemplate id)) s = (answer, s'))
      (failed : ∀ template, answer ≠ .ok (some template)) : Estimating cloud a t s ⟨t, .unfetched⟩ s'

theorem run_estimate (a : Access) (id : String) (lastUpdate : Timestamp) (s : Scene W) :
    cloud.run (estimate (fetchActions a id) id lastUpdate) s =
      match (s.durations.get? id).bind (·.fresh? lastUpdate) with
      | some d => (.ok d, s)
      | none => match cloud.run (.send a (.getTemplate id)) s with
        | (.error e, s') => (.error (.refused id e), s')
        | (.ok none, s') => (.error (.notReturned id), s')
        | (.ok (some template), s') => (.ok template.toActions.totalDuration,
            { s' with durations := s'.durations.record (cloud.calendar s'.world) id
                        template.toActions.totalDuration }) := by
  unfold Cloud.run
  rw [Estimates.estimate_eq, Plan.run]
  change Plan.run cloud.perform (match (s.durations.get? id).bind (·.fresh? lastUpdate) with
    | some d => Plan.done (.ok d)
    | none => (fetchActions a id).bind (Estimates.answered id)) s = _
  cases (s.durations.get? id).bind (·.fresh? lastUpdate) with
  | some d => rfl
  | none =>
    have asked : Plan.run cloud.perform (.send a (.getTemplate id)) s =
      cloud.perform (.send a (.getTemplate id)) s := rfl
    simp only [Estimates.fetch_eq, Plan.run, asked]
    rcases cloud.perform (.send a (.getTemplate id)) s with ⟨e | _ | template, s'⟩ <;> rfl

theorem remembered_of_fresh {cache : Fis.DurationCache} {id : String} {lastUpdate : Timestamp} {d : Duration}
    (h : (cache.get? id).bind (·.fresh? lastUpdate) = some d) :
    ∃ e, cache.get? id = some e ∧ lastUpdate ≤ e.createdAt ∧ e.duration = d := by
  obtain ⟨e, known, fresh⟩ := Option.bind_eq_some_iff.1 h
  unfold Fis.Estimate.fresh? at fresh
  split at fresh
  · rename_i recent
    cases fresh
    exact ⟨e, known, recent, rfl⟩
  · cases fresh

theorem missed_of_not_fresh {cache : Fis.DurationCache} {id : String} {lastUpdate : Timestamp}
    (h : (cache.get? id).bind (·.fresh? lastUpdate) = none) : ¬ Recent cache id lastUpdate := by
  rintro ⟨e, known, recent⟩
  simp [known, Fis.Estimate.fresh?, recent] at h

theorem estimatedTarget_unasked (unasked : inquiry? t = none) : estimatedTarget a t = pure (templateTarget t) := by
  obtain ⟨id, description, lastUpdate, tags⟩ := t
  cases id with
  | none => rfl
  | some id =>
    cases lastUpdate with
    | none => rfl
    | some lastUpdate => cases unasked

theorem estimatedTarget_asked {id : String} {lastUpdate : Timestamp}
    (asks : inquiry? t = some (id, lastUpdate)) : estimatedTarget a t = do
      match ← estimate (fetchActions a id) id lastUpdate with
      | .ok d => return addDuration d (templateTarget t)
      | .error _ => return templateTarget t := by
  obtain ⟨named, description, updated, tags⟩ := t
  cases named with
  | none => cases asks
  | some named =>
    cases updated with
    | none => cases asks
    | some updated =>
      cases asks
      rfl

theorem exists_forecast (cloud : Cloud W) (a : Access) (t : TemplateSummary) (s : Scene W) :
    ∃ f, Estimating cloud a t s f (cloud.run (do return [a.stamp (← estimatedTarget a t)]) s).2 ∧
      (cloud.run (do return [a.stamp (← estimatedTarget a t)]) s).1 = [f.target a] := by
  rw [Cloud.run_bind]
  cases asks : inquiry? t with
  | none =>
    rw [estimatedTarget_unasked asks]
    exact ⟨⟨t, .unasked⟩, .unasked asks, rfl⟩
  | some q =>
    obtain ⟨id, lastUpdate⟩ := q
    rw [estimatedTarget_asked asks, Cloud.run_bind, run_estimate]
    cases fresh : (s.durations.get? id).bind (·.fresh? lastUpdate) with
    | some d =>
      obtain ⟨e, known, recent, rfl⟩ := remembered_of_fresh fresh
      exact ⟨⟨t, .remembered e⟩, .remembered asks known recent, rfl⟩
    | none =>
      have missed := missed_of_not_fresh fresh
      cases answered : cloud.run (.send a (.getTemplate id)) s with
      | mk answer s' =>
        rcases answer with e | _ | template
        · exact ⟨⟨t, .unfetched⟩, .unfetched asks missed answered (fun _ same => nomatch same), rfl⟩
        · exact ⟨⟨t, .unfetched⟩, .unfetched asks missed answered (fun _ same => nomatch same), rfl⟩
        · exact ⟨⟨t, .fetched template (cloud.calendar s'.world)⟩, .fetched asks missed answered, rfl⟩

def durationKey : String := "aws.fis.experiment.template.duration"

def secondsKey : String := "aws.fis.experiment.template.duration.seconds"

section attributes

variable {key k : String}

theorem get?_add_of_ne (t : Target) (value : String) (other : key ≠ k) :
    (t.add key value).attributes.get? k = t.attributes.get? k := by
  rw [Target.get?_add, if_neg fun same => other same.1]

theorem get?_addOption_of_ne (t : Target) (value : Option String) (other : key ≠ k) :
    (t.addOption key value).attributes.get? k = t.attributes.get? k := by
  cases value with
  | none => rfl
  | some value => exact get?_add_of_ne t value other

theorem get?_addLabels_of_ne {stem : String} (others : ∀ name, stem ++ name ≠ k) (tags : Cloud.Tags)
    (t : Target) : (addLabels stem tags t).attributes.get? k = t.attributes.get? k := by
  unfold addLabels
  induction tags.entries generalizing t with
  | nil => rfl
  | cons e entries ih => exact (ih _).trans (get?_add_of_ne t _ (others _))

theorem get?_stamp (a : Access) (t : Target) (account : Target.accountKey ≠ k) (region : Target.regionKey ≠ k) :
    (a.stamp t).attributes.get? k = t.attributes.get? k := by
  rw [Access.stamp, get?_add_of_ne _ _ region, get?_add_of_ne _ _ account]

theorem get?_templateTarget (t : TemplateSummary) (own : templateKey ≠ k)
    (description : "aws.fis.experiment.template.description" ≠ k)
    (lastUpdate : "aws.fis.experiment.template.last-update" ≠ k)
    (labels : ∀ name, "aws.fis.experiment.template.label." ++ name ≠ k) :
    (templateTarget t).attributes.get? k = none := by
  unfold templateTarget
  rw [get?_addLabels_of_ne labels, get?_addOption_of_ne _ _ lastUpdate, get?_addOption_of_ne _ _ description,
    get?_add_of_ne _ _ own]
  rfl

theorem get?_durationKey (a : Access) (f : Forecast) :
    (f.target a).attributes.get? durationKey = f.fate.duration?.map fun d => [d.inUnits] := by
  have silent : (templateTarget f.summary).attributes.get? durationKey = none :=
    get?_templateTarget f.summary (by decide) (by decide) (by decide) (append_ne (by decide))
  rw [Forecast.target, get?_stamp _ _ (by decide) (by decide)]
  cases f.fate.duration? with
  | none => exact silent
  | some d =>
    have told : durationKey = durationKey ∧ d.inUnits ≠ "" := ⟨rfl, d.inUnits_ne_empty⟩
    change (((templateTarget f.summary).add durationKey d.inUnits).add secondsKey _).attributes.get? _ = _
    rw [get?_add_of_ne _ _ (by decide), Target.get?_add, if_pos told, silent]
    rfl

theorem get?_secondsKey (a : Access) (f : Forecast) :
    (f.target a).attributes.get? secondsKey = f.fate.duration?.map fun d => [toString d.secs] := by
  have silent : (templateTarget f.summary).attributes.get? secondsKey = none :=
    get?_templateTarget f.summary (by decide) (by decide) (by decide) (append_ne (by decide))
  rw [Forecast.target, get?_stamp _ _ (by decide) (by decide)]
  cases f.fate.duration? with
  | none => exact silent
  | some d =>
    have told : secondsKey = secondsKey ∧ toString d.secs ≠ "" := ⟨rfl, Nat.repr_ne_empty⟩
    change (((templateTarget f.summary).add durationKey d.inUnits).add secondsKey _).attributes.get? _ = _
    rw [Target.get?_add, if_pos told, get?_add_of_ne _ _ (by decide), silent]
    rfl

end attributes

theorem of_inquiry? {id : String} {lastUpdate : Timestamp} (h : inquiry? t = some (id, lastUpdate)) :
    t.id = some id ∧ t.lastUpdate = some lastUpdate := by
  unfold inquiry? at h
  split at h
  · rename_i named updated
    cases h
    exact ⟨named, updated⟩
  · cases h

theorem durations_send {request : Request} {answer : Except Cloud.ServiceError request.Answer}
    (h : cloud.run (.send a request) s = (answer, s')) : s'.durations = s.durations := by
  have kept := Estimates.durations_send cloud a request s
  change (cloud.run (.send a request) s).2.durations = _ at kept
  rwa [h] at kept

namespace Estimating

variable {f : Forecast}

theorem summary_eq (h : Estimating cloud a t s f s') : f.summary = t := by
  cases h <;> rfl

theorem calls (h : Estimating cloud a t s f s') : s'.calls.toList = s.calls.toList ++ f.calls a := by
  cases h with
  | unasked | remembered => simp [Forecast.calls, Forecast.wanted?]
  | fetched asks missed answered | unfetched asks missed answered =>
    simp [Forecast.calls, Forecast.wanted?, (of_inquiry? asks).1, Cloud.calls_send answered]

theorem follows (h : Estimating cloud a t s f s') : Follows s.durations [f] s'.durations := by
  cases h with
  | unasked asks => exact .cons (.unasked asks) (.nil _)
  | remembered asks known recent => exact .cons (.remembered asks known recent) (.nil _)
  | unfetched asks missed answered =>
    rw [durations_send answered]
    exact .cons (.unfetched asks missed) (.nil _)
  | fetched asks missed answered =>
    rw [durations_send answered]
    refine .cons (.fetched asks missed) ?_
    simp only [Forecast.keep, (of_inquiry? asks).1]
    exact .nil _

end Estimating

namespace Forecast

variable {cache : Fis.DurationCache} {f : Forecast} {id : String} {lastUpdate : Timestamp}

theorem get?_keep (other : f.wanted? ≠ some id) : (f.keep cache).get? id = cache.get? id := by
  unfold keep
  split
  · rename_i template now id' fate named
    have differs : id' ≠ id := by simpa [wanted?, fate, named] using other
    rw [Fis.DurationCache.record, Dictionary.get?_insert, if_neg differs]
  · rfl

theorem recent_keep (h : Recent cache id lastUpdate)
    (later : ∀ template now, f.fate = .fetched template now → lastUpdate ≤ now) :
    Recent (f.keep cache) id lastUpdate := by
  unfold keep
  split
  · rename_i template now id' fate named
    obtain ⟨e, known, recent⟩ := h
    by_cases same : id' = id
    · exact ⟨⟨now, _⟩, by rw [Fis.DurationCache.record, Dictionary.get?_insert, if_pos same], later template now fate⟩
    · exact ⟨e, by rw [Fis.DurationCache.record, Dictionary.get?_insert, if_neg same, known], recent⟩
  · exact h

end Forecast

namespace Follows

variable {cache cache' : Fis.DurationCache} {fs gs : List Forecast} {id : String} {lastUpdate : Timestamp}

theorem append {cache'' : Fis.DurationCache} (first : Follows cache fs cache') (rest : Follows cache' gs cache'') :
    Follows cache (fs ++ gs) cache'' := by
  induction first with
  | nil => exact rest
  | cons here _ ih => exact .cons here (ih rest)

theorem recent (h : Follows cache fs cache')
    (later : ∀ f ∈ fs, ∀ template now, f.fate = .fetched template now → lastUpdate ≤ now)
    (known : Recent cache id lastUpdate) : Recent cache' id lastUpdate := by
  induction h with
  | nil => exact known
  | cons _ _ ih =>
    rw [List.forall_mem_cons] at later
    exact ih later.2 (Forecast.recent_keep known later.1)

theorem recent_of_mem (h : Follows cache fs cache')
    (later : ∀ f ∈ fs, ∀ template now, f.fate = .fetched template now → lastUpdate ≤ now) {f : Forecast}
    (mem : f ∈ fs) (asks : inquiry? f.summary = some (id, lastUpdate)) (got : f.fate ≠ .unfetched) :
    Recent cache' id lastUpdate := by
  induction h with
  | nil => cases mem
  | cons here rest ih =>
    rw [List.forall_mem_cons] at later
    rcases List.mem_cons.1 mem with rfl | mem
    · refine rest.recent later.2 ?_
      cases here with
      | unasked unasked => cases unasked.symm.trans asks
      | remembered asks' known recent =>
        cases asks'.symm.trans asks
        exact ⟨_, known, recent⟩
      | @fetched t id' _ template now asks' missed =>
        cases asks'.symm.trans asks
        refine ⟨⟨now, template.toActions.totalDuration⟩, ?_, later.1 template now rfl⟩
        simp only [Forecast.keep, (of_inquiry? asks').1]
        rw [Fis.DurationCache.record, Dictionary.get?_insert, if_pos rfl]
      | unfetched => exact (got rfl).elim
    · exact ih later.2 mem

theorem unwanted (h : Follows cache fs cache')
    (known : ∀ f ∈ fs, ∀ lastUpdate, inquiry? f.summary = some (id, lastUpdate) → Recent cache id lastUpdate) :
    ∀ f ∈ fs, f.wanted? ≠ some id := by
  induction h with
  | nil => exact List.forall_mem_nil _
  | @cons cache cache' f fs here rest ih =>
    rw [List.forall_mem_cons] at known ⊢
    have first : f.wanted? ≠ some id := by
      intro wanted
      cases here with
      | unasked | remembered => cases wanted
      | fetched asks missed | unfetched asks missed =>
        cases (of_inquiry? asks).1.symm.trans wanted
        exact missed (known.1 _ asks)
    refine ⟨first, ih fun g mem lastUpdate asks => ?_⟩
    obtain ⟨e, here, recent⟩ := known.2 g mem lastUpdate asks
    exact ⟨e, (Forecast.get?_keep first).trans here, recent⟩

theorem failed_of_wanted {cache'' : Fis.DurationCache} (first : Follows cache fs cache')
    (second : Follows cache' gs cache'')
    (unchanged : ∀ g ∈ gs, ∀ q, inquiry? g.summary = some q → ∃ f ∈ fs, inquiry? f.summary = some q)
    (later : ∀ f ∈ fs, ∀ id lastUpdate, inquiry? f.summary = some (id, lastUpdate) →
      ∀ f' ∈ fs, ∀ template now, f'.fate = .fetched template now → lastUpdate ≤ now) :
    ∀ g ∈ gs, ∀ id, g.wanted? = some id → ∃ f ∈ fs, f.fate = .unfetched ∧ f.summary.id = some id := by
  intro g mem id wanted
  -- if the template was estimated the first time, that is as recent as any update that is listed now
  by_contra estimated
  refine second.unwanted (fun g' mem' lastUpdate asks => ?_) g mem wanted
  obtain ⟨f, listed, same⟩ := unchanged g' mem' _ asks
  refine first.recent_of_mem (later f listed id lastUpdate same) listed same fun failed => ?_
  exact estimated ⟨f, listed, failed, (of_inquiry? same).1⟩

end Follows

def seen (pages : List (Visit TemplateSummary Forecast)) : List Forecast := pages.flatMap Visit.items

theorem follows_listing {limit : Nat} {token : Option String} {pages : List (Visit TemplateSummary Forecast)}
    (h : Listing cloud (fun token => .send a (.listTemplates token)) .always (Estimating cloud a) limit token s
      pages s') : Follows s.durations (seen pages) s'.durations := by
  have followed := h.folds (P := fun s fs s' => Follows s.durations fs s'.durations)
    (fun _ => []) (fun f => [f]) (fun s => .nil _)
    (fun _ _ _ _ _ first rest => first.append rest) (fun _ _ _ _ estimating => estimating.follows)
    fun _ s _ s' asked => durations_send asked ▸ .nil s.durations
  simpa only [List.nil_append, List.flatMap_singleton', seen] using followed

/-- A search for templates finds all that are listed, and fetches those for which it knows no recent
estimate. -/
theorem templates_all_found (cloud : Cloud W) (a : Access) (limit : Nat) (s : Scene W) :
    let r := cloud.run (templates limit a) s
    ∃ pages : List (Visit TemplateSummary Forecast),
      Listing cloud (fun token => .send a (.listTemplates token)) .always (Estimating cloud a) limit none s
        pages r.2 ∧
      Chained .always limit none pages ∧
      (∀ page ∈ pages, page.items.map Forecast.summary = page.listed) ∧
      ((∃ found, r.1 = .ok found) ↔ complete .always pages = true) ∧
      (∀ found, r.1 = .ok found → found = (seen pages).map (Forecast.target a)) ∧
      (∀ f ∈ seen pages,
        (f.target a).attributes.get? durationKey = f.fate.duration?.map (fun d => [d.inUnits]) ∧
        (f.target a).attributes.get? secondsKey = f.fate.duration?.map fun d => [toString d.secs]) ∧
      Follows s.durations (seen pages) r.2.durations ∧
      r.2.calls.toList = s.calls.toList ++
        pages.flatMap (fun page => sent a (.listTemplates page.token) ++
          page.items.flatMap (Forecast.calls a)) ∧
      ∀ limit' s₂ pages₂ s₂',
        Listing cloud (fun token => .send a (.listTemplates token)) .always (Estimating cloud a) limit' none s₂
          pages₂ s₂' →
        s₂.durations = r.2.durations →
        (∀ g ∈ seen pages₂, ∀ q, inquiry? g.summary = some q →
          ∃ f ∈ seen pages, inquiry? f.summary = some q) →
        (∀ f ∈ seen pages, ∀ id lastUpdate, inquiry? f.summary = some (id, lastUpdate) →
          ∀ f' ∈ seen pages, ∀ template now, f'.fate = .fetched template now → lastUpdate ≤ now) →
        ∀ g ∈ seen pages₂, ∀ id, g.wanted? = some id →
          ∃ f ∈ seen pages, f.fate = .unfetched ∧ f.summary.id = some id := by
  obtain ⟨pages, g, s', listing, outcome, ran⟩ := Cloud.exists_whole_listing
    (fun token => .send a (.listTemplates token)) .always (exists_forecast cloud a) limit none s
  have ran : cloud.run (templates limit a) s = (g.whole, s') := ran
  rw [ran]
  intro r
  have follows := follows_listing listing
  refine ⟨pages, listing, listing.chained, ?_, outcome.isOk_iff listing.chained, fun found ok => ?_,
    fun f _ => ⟨get?_durationKey a f, get?_secondsKey a f⟩, follows, ?_, ?_⟩
  · exact listing.map_items Forecast.summary fun _ _ _ _ estimating => estimating.summary_eq
  · rw [← (Cloud.Gathered.whole_eq_ok.1 ok).2, outcome.found, seen, List.map_flatMap]
    refine List.flatMap_congr fun page _ => ?_
    rw [List.map_eq_flatMap]
  · exact listing.calls .listTemplates (Forecast.calls a) (fun _ _ _ _ => Cloud.calls_send)
      fun _ _ _ _ => Estimating.calls
  · intro limit' s₂ pages₂ s₂' again kept unchanged later
    have follows₂ := follows_listing again
    rw [kept] at follows₂
    exact follows.failed_of_wanted follows₂ unchanged later

/-- Every page of a listing is answered with a token that depends on the one it was asked for with. -/
def offer (next : Option String → Option String) : (request : Request) →
    Except Cloud.ServiceError request.Answer
  | .listFunctions token => .ok { next := next token }
  | .describeReplicationGroups token _ => .ok { next := next token }
  | .listClusters token => .ok { next := next token }
  | .listNodes _ token => .ok { next := next token }
  | .listTemplates token =>
    .ok { items := [{ id := some "t", lastUpdate := some .epoch }], next := next token }
  | .getTemplate _ => .ok (some {})
  | _ => .error Command.unreachable

def offering (next : Option String → Option String) : Cloud Command.Offline :=
  { Command.offline .epoch with send := fun _ request w => (offer next request, w) }

def office : Access := { number := 0, account := "1", region := "eu" }

theorem seen_offered {s s' : Scene Command.Offline} {pages : List (Visit TemplateSummary Forecast)}
    (h : Listing (offering fun _ => none) (fun token => .send office (.listTemplates token)) .always
      (Estimating (offering fun _ => none) office) 1 none s pages s') :
    ∃ f s₁, seen pages = [f] ∧ Estimating (offering fun _ => none) office
      { id := some "t", lastUpdate := some .epoch } s₁ f s' ∧ s₁.durations = s.durations := by
  cases h with
  | refused asked => cases asked
  | last asked each =>
    cases asked
    cases each with
    | cons first rest =>
      cases rest
      exact ⟨_, _, rfl, first, rfl⟩
  | more asked each goes =>
    cases asked
    cases goes

theorem fate_offered {s s' : Scene Command.Offline} {f : Forecast} (empty : s.durations = .empty)
    (h : Estimating (offering fun _ => none) office { id := some "t", lastUpdate := some .epoch } s f s') :
    ∃ template now, f.fate = .fetched template now ∧ .epoch ≤ now := by
  cases h with
  | unasked asks => cases asks
  | remembered asks known recent =>
    rw [empty] at known
    cases known
  | fetched =>
    exact ⟨_, _, rfl, Timestamp.le_iff.2 (Int.le_add_of_nonneg_right (Int.natCast_nonneg _))⟩
  | unfetched asks missed answered failed =>
    cases asks
    cases answered
    exact (failed _ rfl).elim

theorem offered_fetched_once :
    let first := (offering fun _ => none).run (templates 1 office) { world := {} }
    ∃ pages f s', Listing (offering fun _ => none) (fun token => .send office (.listTemplates token)) .always
      (Estimating (offering fun _ => none) office) 1 none first.2 pages s' ∧
      seen pages = [f] ∧ f.wanted? = none := by
  intro first
  obtain ⟨pages, listing, _, _, _, _, _, _, _, again⟩ :=
    templates_all_found (offering fun _ => none) office 1 { world := {} }
  obtain ⟨pages₂, listing₂, _⟩ := templates_all_found (offering fun _ => none) office 1 first.2
  obtain ⟨f, s₁, alone, estimated, kept⟩ := seen_offered listing
  obtain ⟨g, s₂, alone₂, estimated₂, _⟩ := seen_offered listing₂
  obtain ⟨template, now, fate, recent⟩ := fate_offered kept estimated
  have unchanged : ∀ g' ∈ seen pages₂, ∀ q, inquiry? g'.summary = some q →
      ∃ f' ∈ seen pages, inquiry? f'.summary = some q := by
    intro g' mem q asks
    rw [alone₂, List.mem_singleton] at mem
    rw [mem, estimated₂.summary_eq] at asks
    exact ⟨f, by simp [alone], by rw [estimated.summary_eq, asks]⟩
  have later : ∀ f' ∈ seen pages, ∀ id lastUpdate, inquiry? f'.summary = some (id, lastUpdate) →
      ∀ f'' ∈ seen pages, ∀ template now, f''.fate = .fetched template now → lastUpdate ≤ now := by
    intro f' mem id lastUpdate asks f'' mem' template' now' fate'
    rw [alone, List.mem_singleton] at mem mem'
    rw [mem, estimated.summary_eq] at asks
    rw [mem', fate] at fate'
    cases asks
    cases fate'
    exact recent
  refine ⟨pages₂, g, _, listing₂, alone₂, Option.eq_none_iff_forall_ne_some.2 fun id wanted => ?_⟩
  obtain ⟨f', mem, failed, _⟩ := again 1 _ pages₂ _ listing₂ rfl unchanged later g (by simp [alone₂]) id wanted
  rw [alone, List.mem_singleton] at mem
  rw [mem, fate] at failed
  cases failed

end Inventory

end GameDay
