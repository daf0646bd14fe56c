import GameDay.Proofs.Cloud.Moves
import GameDay.Proofs.Inventory.Forecasts
import GameDay.Proofs.Inventory.Isolation
import GameDay.Proofs.Inventory.Limits
import GameDay.Proofs.Inventory.Requests

namespace GameDay

namespace Cloud

variable {α β σ W : Type}

def Effect.lists (kind : TargetKind) : Effect → Bool
  | .send _ (.listFunctions _) => kind = .lambda
  | .send _ (.describeReplicationGroups _ none) => kind = .nodeGroup
  | .send _ (.listClusters _) => kind = .broker
  | .send _ (.listTemplates _) => kind = .template
  | _ => false

def Effect.asksPage : Effect → Bool
  | .send _ (.listNodes _ _) => true
  | e => TargetKind.all.any e.lists

namespace Dealing

def refusal? : Dealing → Option ServiceError
  | ⟨.send _ _, .error e⟩ => some e
  | _ => none

def call? (d : Dealing) : Option (Access × Request) :=
  match d.effect with
  | .send a request => if request.canBeSent then some (a, request) else none
  | _ => none

theorem of_call? {d : Dealing} {kind : Access → Request → Prop} {call : Access × Request}
    (sends : d.effect.Sends kind) (sent : d.call? = some call) : kind call.1 call.2 := by
  obtain ⟨effect, answer⟩ := d
  cases effect with
  | send a request =>
    simp only [call?] at sent
    split at sent
    · cases sent
      exact sends
    · cases sent
  | lookUp | record | clock | freshId => cases sent

end Dealing

/-- What cuts the listing of pages short: the error of the request that was refused, if one was, or the limit. -/
structure Listed (listing : Effect → Bool) (limit : Nat) (ds : List Dealing) (fault : Option Fault) : Prop where
  refused : ∀ e, fault = some (.refused e) ↔ ∃ d ∈ ds, listing d.effect = true ∧ d.refusal? = some e
  endless : fault = some .endless → (ds.countP fun d => listing d.effect) = limit

namespace Listed

variable {listing : Effect → Bool} {limit : Nat} {d : Dealing} {inner rest : List Dealing} {e : ServiceError}
  {fault : Option Fault}

theorem nothing : Listed listing 0 [] (some .endless) :=
  ⟨by simp, fun _ => rfl⟩

theorem stopped (listed : listing d.effect = true) (refused : d.refusal? = some e) :
    Listed listing limit [d] (some (.refused e)) := by
  refine ⟨fun e' => ?_, by simp⟩
  simp [listed, refused]

section page

variable (answered : d.refusal? = none) (unlisted : ∀ d ∈ inner, listing d.effect = false)
include answered unlisted

theorem refused_skip : (∃ d' ∈ [d] ++ inner ++ rest, listing d'.effect = true ∧ d'.refusal? = some e) ↔
    ∃ d' ∈ rest, listing d'.effect = true ∧ d'.refusal? = some e := by
  constructor
  · rintro ⟨d', mem, listed, refused⟩
    rw [List.mem_append, List.mem_append, List.mem_singleton] at mem
    obtain (rfl | mem) | mem := mem
    · cases answered.symm.trans refused
    · cases (unlisted d' mem).symm.trans listed
    · exact ⟨d', mem, listed, refused⟩
  · rintro ⟨d', mem, refused⟩
    exact ⟨d', List.mem_append_right _ mem, refused⟩

theorem last : Listed listing limit ([d] ++ inner) none := by
  refine ⟨fun e => ?_, by simp⟩
  rw [← List.append_nil ([d] ++ inner), refused_skip answered unlisted]
  simp

theorem page (listed : listing d.effect = true) (more : Listed listing limit rest fault) :
    Listed listing (limit + 1) ([d] ++ inner ++ rest) fault := by
  constructor
  · intro e
    rw [refused_skip answered unlisted, ← more.refused]
  · intro endless
    have counted : (inner.countP fun d => listing d.effect) = 0 := by
      rw [List.countP_eq_zero]
      intro d mem
      rw [unlisted d mem]
      exact Bool.false_ne_true
    rw [List.countP_append, List.countP_append, counted, more.endless endless, List.countP_singleton,
      if_pos listed]
    omega

end page

end Listed

theorem Plan.Comes.found_of_forEach {ds : List Dealing} {each : α → Plan (List β)} {as : List α}
    {found : List β} (h : (forEach each as).Comes ds (.done found)) : ∀ b ∈ found,
      ∃ a inner part, (each a).Comes inner (.done part) ∧ b ∈ part ∧ inner.Sublist ds := by
  induction as generalizing ds found with
  | nil =>
    obtain ⟨-, same⟩ := h.of_done
    cases same
    exact List.forall_mem_nil _
  | cons a as ih =>
    obtain ⟨part, inner, rest, rfl, first, later⟩ := h.of_bind
    obtain ⟨more, others, last, rfl, deep, later⟩ := later.of_bind
    obtain ⟨rfl, same⟩ := later.of_done
    cases same
    intro b mem
    rcases List.mem_append.1 mem with mem | mem
    · exact ⟨a, inner, part, first, mem, List.sublist_append_left _ _⟩
    · obtain ⟨a', own, part', comes, among, within⟩ := ih deep b mem
      exact ⟨a', own, part', comes, among, within.trans (by simp)⟩

section gather

variable (ask : Option String → Plan (Except ServiceError (Page α))) (follow : Follow) (each : α → Plan (List β))

/-- The dealings of a listing, page by page: it is cut off, refused, at its end, or goes on with a token. -/
inductive Gathers : Nat → Option String → List Dealing → Gathered β → Prop
  | cut {token : Option String} : Gathers 0 token [] { fault := some .endless }
  | refused {limit : Nat} {token : Option String} {ds : List Dealing} {e : ServiceError}
      (asked : (ask token).Comes ds (.done (.error e))) :
      Gathers (limit + 1) token ds { fault := some (.refused e) }
  | last {limit : Nat} {token : Option String} {ds inner : List Dealing} {page : Page α} {found : List β}
      (asked : (ask token).Comes ds (.done (.ok page)))
      (items : (Plan.forEach each page.items).Comes inner (.done found))
      (ends : follow token page.next = none) : Gathers (limit + 1) token (ds ++ inner) { found }
  | more {limit : Nat} {token : Option String} {ds inner rest : List Dealing} {page : Page α} {found : List β}
      {next : String} {g : Gathered β} (asked : (ask token).Comes ds (.done (.ok page)))
      (items : (Plan.forEach each page.items).Comes inner (.done found))
      (goesOn : follow token page.next = some next) (gathers : Gathers limit (some next) rest g) :
      Gathers (limit + 1) token (ds ++ inner ++ rest) { g with found := found ++ g.found }

variable {ask follow each} {ds : List Dealing} {limit : Nat} {token : Option String} {g : Gathered β}

theorem Plan.Comes.gathers (h : (gather ask follow each limit token).Comes ds (.done g)) :
    Gathers ask follow each limit token ds g := by
  induction limit generalizing token ds g with
  | zero =>
    obtain ⟨rfl, same⟩ := h.of_done
    cases same
    exact .cut
  | succ limit ih =>
    obtain ⟨answer, asked, rest, rfl, first, later⟩ := h.of_bind
    cases answer with
    | error e =>
      obtain ⟨rfl, same⟩ := later.of_done
      cases same
      rw [List.append_nil]
      exact .refused first
    | ok page =>
      obtain ⟨found, inner, rest, rfl, items, later⟩ := later.of_bind
      rw [← List.append_assoc]
      cases next : follow token page.next with
      | none =>
        simp only [next] at later
        obtain ⟨rfl, same⟩ := later.of_done
        cases same
        rw [List.append_nil]
        exact .last first items next
      | some t =>
        simp only [next] at later
        obtain ⟨more, deeper, last, rfl, deep, later⟩ := later.of_bind
        obtain ⟨rfl, same⟩ := later.of_done
        cases same
        rw [List.append_nil]
        exact .more first items next (ih deep)

theorem Gathers.listed {listing : Effect → Bool}
    (asks : ∀ {token ds answer}, (ask token).Comes ds (.done answer) →
      ∃ d, ds = [d] ∧ listing d.effect = true ∧ ∀ e, d.refusal? = some e ↔ answer = .error e)
    (items : ∀ a, (each a).Within fun e => listing e = false)
    (h : Gathers ask follow each limit token ds g) : Listed listing limit ds g.fault := by
  have unlisted {inner : List Dealing} {page : Page α} {found : List β}
      (comes : (Plan.forEach each page.items).Comes inner (.done found)) :
      ∀ d ∈ inner, listing d.effect = false := comes.within (.forEach items page.items)
  have unrefused {d : Dealing} {page : Page α}
      (refused : ∀ e, d.refusal? = some e ↔ (Except.ok page : Except ServiceError (Page α)) = .error e) :
      d.refusal? = none := by
    rw [Option.eq_none_iff_forall_ne_some]
    intro e refusal
    cases (refused e).1 refusal
  induction h with
  | cut => exact .nothing
  | refused asked =>
    obtain ⟨d, rfl, listed, refused⟩ := asks asked
    exact .stopped listed ((refused _).2 rfl)
  | last asked comes =>
    obtain ⟨d, rfl, -, refused⟩ := asks asked
    exact .last (unrefused refused) (unlisted comes)
  | more asked comes _ _ ih =>
    obtain ⟨d, rfl, listed, refused⟩ := asks asked
    exact ih.page (unrefused refused) (unlisted comes) listed

theorem Gathers.found (h : Gathers ask follow each limit token ds g) : ∀ b ∈ g.found,
    ∃ a inner part, (each a).Comes inner (.done part) ∧ b ∈ part ∧ inner.Sublist ds := by
  induction h with
  | cut | refused => exact List.forall_mem_nil _
  | last _ comes =>
    intro b mem
    obtain ⟨a, own, part, comes, among, within⟩ := comes.found_of_forEach b mem
    exact ⟨a, own, part, comes, among, within.trans (by simp)⟩
  | more _ comes _ _ ih =>
    intro b mem
    rcases List.mem_append.1 mem with mem | mem
    · obtain ⟨a, own, part, comes, among, within⟩ := comes.found_of_forEach b mem
      exact ⟨a, own, part, comes, among, within.trans (by simp)⟩
    · obtain ⟨a, own, part, comes, among, within⟩ := ih b mem
      exact ⟨a, own, part, comes, among, within.trans (by simp)⟩

theorem Plan.Comes.of_pages {r : Except Fault (List β)}
    (h : (pages ask follow each limit token).Comes ds (.done r)) :
    ∃ g, r = g.whole ∧ Gathers ask follow each limit token ds g := by
  obtain ⟨g, ds, rest, rfl, gathers, later⟩ := h.of_bind
  obtain ⟨rfl, same⟩ := later.of_done
  cases same
  rw [List.append_nil]
  exact ⟨g, rfl, gathers.gathers⟩

end gather

theorem calls_of_replays {cloud : Cloud W} {s s' : Scene W} {ds : List Dealing}
    (h : Replays cloud.perform s ds s') :
    s'.calls.toList = s.calls.toList ++ ds.filterMap Dealing.call? := by
  induction h with
  | nil => simp
  | @concat ds s' before e ih =>
    rw [List.filterMap_append, ← List.append_assoc, ← ih]
    cases e with
    | send a request =>
      change (cloud.sendNoted a request s').2.calls.toList = _
      unfold sendNoted
      simp only [List.filterMap_cons, Dealing.call?]
      split
      · simp
      · simp
    | lookUp | record | clock | freshId => exact (List.append_nil _).symm

end Cloud

namespace Inventory

open Cloud (DiscoverySettings Dealing Effect Fault Findings Gathered InPlaces Move Plan Replays Scene Worker own)
open Cloud.FanOut (Unfolds exists_unfolding foundBy)

theorem kind_foldl {α : Type} {f : Target → α → Target} (step : ∀ t a, (f t a).kind = t.kind) (as : List α)
    (t : Target) : (as.foldl f t).kind = t.kind := by
  induction as generalizing t with
  | nil => rfl
  | cons a as ih => exact (ih _).trans (step t a)

theorem kind_stamp (x : Access) (t : Target) : (x.stamp t).kind = t.kind := by
  simp only [Access.stamp, Target.id_add]

theorem Described.kind_eq {kind : TargetKind} {t : Target} (h : Described kind t) : t.kind = kind := by
  cases h with
  | function f =>
    simp only [functionTarget, Target.id_addOption]
    rw [kind_foldl fun t a => (Target.id_add t _ a).2.2]
    simp only [Target.id_addOption, Target.id_add]
  | nodeGroup g n =>
    rw [nodeGroupTarget, kind_foldl fun t a => (Target.id_addOption t _ a).2]
    simp only [Target.id_addOption, Target.id_add]
  | broker made =>
    unfold brokerTarget? at made
    obtain ⟨broker, _, made⟩ := Option.bind_eq_some_iff.1 made
    obtain ⟨number, _, made⟩ := Option.bind_eq_some_iff.1 made
    cases made
    simp only [id_addLabels]
    rw [kind_foldl fun t a => (Target.id_add t _ a).2.2]
    simp only [Target.id_addOption, Target.id_add]
  | template t => exact (id_templateTarget t).2
  | estimated t d => exact (addDuration_left d _).kind.trans (id_templateTarget t).2

structure Search (limit : Nat) (kind : TargetKind) (a : Access) (ds : List Dealing)
    (result : Except Fault (List Target)) : Prop where
  comes : (ofKind limit kind a).Comes ds (.done result)
  sends : ∀ d ∈ ds, d.effect.Sends fun sender request => sender = a ∧ request.kind = kind
  refused : result ≠ .error .endless → ∀ e, result = .error (.refused e) ↔
    ∃ d ∈ ds, d.effect.lists kind = true ∧ d.refusal? = some e
  served : (∀ d ∈ ds, d.effect.lists kind = true → d.refusal? = none) →
    (ds.countP fun d => d.effect.asksPage) < limit → ∃ found, result = .ok found
  found : ∀ t ∈ foundBy result, t.kind = kind ∧ a.Marked t

theorem asks_send {a : Access} {request : Cloud.Request} {listing : Effect → Bool} {ds : List Dealing}
    {answer : Except Cloud.ServiceError request.Answer} (lists : listing (Effect.send a request) = true)
    (h : (Plan.send a request).Comes ds (.done answer)) :
    ∃ d, ds = [d] ∧ listing d.effect = true ∧ ∀ e, d.refusal? = some e ↔ answer = .error e := by
  refine ⟨_, h.of_effect, lists, fun e => ?_⟩
  cases answer <;> simp [Dealing.refusal?]

theorem asksPage_of_lists {kind : TargetKind} {e : Effect} (lists : e.lists kind = true) :
    e.asksPage = true := by
  have among : TargetKind.all.any e.lists = true :=
    List.any_eq_true.2 ⟨kind, by cases kind <;> decide, lists⟩
  unfold Effect.asksPage
  split
  · rfl
  · exact among

theorem le_pages {listing : Effect → Bool} {limit : Nat} {ds : List Dealing}
    (h : Cloud.Listed listing limit ds (some .endless)) (page : ∀ e, listing e = true → e.asksPage = true) :
    limit ≤ ds.countP fun d => d.effect.asksPage := by
  rw [← h.endless rfl]
  exact List.countP_mono_left fun d _ listed => page d.effect listed

theorem le_pages_of_unknown {limit : Nat} {a : Access} {c : Cloud.Cluster} {ds : List Dealing}
    {found : List (Option Target)} (h : (clusterBrokers limit a c).Comes ds (.done found))
    (unknown : none ∈ found) : limit ≤ ds.countP fun d => d.effect.asksPage := by
  unfold clusterBrokers at h
  split at h
  · split at h
    · obtain ⟨nodes, asked, rest, rfl, first, later⟩ := h.of_bind
      rcases nodes with (e | _) | nodes
      · obtain ⟨-, same⟩ := later.of_done
        cases same
        cases unknown
      · obtain ⟨g, endless, gathers⟩ := first.of_pages
        have listed : Cloud.Listed Effect.asksPage limit asked g.fault :=
          gathers.listed (asks_send rfl) fun _ => .pure _
        rw [Gathered.whole_eq_error.1 endless.symm] at listed
        have all := le_pages listed fun _ page => page
        rw [List.countP_append]
        omega
      · obtain ⟨-, same⟩ := later.of_done
        cases same
        simp at unknown
    · obtain ⟨-, same⟩ := h.of_done
      cases same
      cases unknown
  · obtain ⟨-, same⟩ := h.of_done
    cases same
    cases unknown

theorem settled_eq_endless {g : Gathered (Option Target)} (h : settled g = .error .endless) :
    g.fault = some .endless ∨ none ∈ g.found := by
  unfold settled at h
  split at h
  · have cut := Gathered.whole_eq_error.1 h
    exact .inl cut
  · rename_i unknown
    exact .inr (by simpa using unknown)

theorem settled_eq_refused {g : Gathered (Option Target)} (ends : settled g ≠ .error .endless)
    {e : Cloud.ServiceError} : settled g = .error (.refused e) ↔ g.fault = some (.refused e) := by
  unfold settled at ends ⊢
  split
  · exact Gathered.whole_eq_error
  · rename_i unknown
    rw [if_neg unknown] at ends
    exact (ends rfl).elim

theorem exists_listed {limit : Nat} {kind : TargetKind} {a : Access} {ds : List Dealing}
    {result : Except Fault (List Target)} (h : (ofKind limit kind a).Comes ds (.done result)) :
    ∃ fault, Cloud.Listed (Effect.lists kind) limit ds fault ∧
      (result ≠ .error .endless → ∀ e, result = .error (.refused e) ↔ fault = some (.refused e)) ∧
      (result = .error .endless → fault = some .endless ∨ limit ≤ ds.countP fun d => d.effect.asksPage) := by
  have whole {g : Gathered Target} (listed : Cloud.Listed (Effect.lists kind) limit ds g.fault) :
      ∃ fault, Cloud.Listed (Effect.lists kind) limit ds fault ∧
        (g.whole ≠ .error .endless → ∀ e, g.whole = .error (.refused e) ↔ fault = some (.refused e)) ∧
        (g.whole = .error .endless → fault = some .endless ∨ limit ≤ ds.countP fun d => d.effect.asksPage) :=
    ⟨g.fault, listed, fun _ _ => Gathered.whole_eq_error,
      fun endless => .inl (Gathered.whole_eq_error.1 endless)⟩
  cases kind with
  | lambda =>
    obtain ⟨g, rfl, gathers⟩ := Plan.Comes.of_pages h
    exact whole (gathers.listed (asks_send rfl) fun _ => .pure _)
  | nodeGroup =>
    obtain ⟨g, rfl, gathers⟩ := Plan.Comes.of_pages h
    exact whole (gathers.listed (asks_send rfl) fun _ => .pure _)
  | broker =>
    obtain ⟨g, ds, rest, rfl, comes, later⟩ := Plan.Comes.of_bind h
    obtain ⟨rfl, same⟩ := later.of_done
    cases same
    rw [List.append_nil]
    have gathers := comes.gathers
    refine ⟨g.fault, gathers.listed (asks_send rfl) (within_clusterBrokers limit fun _ _ => rfl),
      fun ends e => settled_eq_refused ends, fun endless => ?_⟩
    refine (settled_eq_endless endless).imp_right fun unknown => ?_
    obtain ⟨c, inner, part, comes, mem, within⟩ := gathers.found none unknown
    exact (le_pages_of_unknown comes mem).trans within.countP_le
  | template =>
    obtain ⟨g, rfl, gathers⟩ := Plan.Comes.of_pages h
    refine whole (gathers.listed (asks_send rfl) fun t => ?_)
    exact (within_estimatedTarget (fun _ => rfl) (fun _ _ => rfl) (fun _ => rfl) t).bind fun _ => .pure _

theorem search_of_comes {limit : Nat} {kind : TargetKind} {a : Access} {ds : List Dealing}
    {result : Except Fault (List Target)} (h : (ofKind limit kind a).Comes ds (.done result)) :
    Search limit kind a ds result := by
  obtain ⟨fault, listed, refused, endless⟩ := exists_listed h
  refine ⟨h, h.within (seeks_ofKind limit a kind), fun ends e => ?_, ?_, ?_⟩
  · rw [refused ends, listed.refused]
  · intro unrefused few
    rcases result with (e | _) | found
    · obtain ⟨d, mem, lists, refusal⟩ := (listed.refused e).1 ((refused (by simp) e).1 rfl)
      cases (unrefused d mem lists).symm.trans refusal
    · have many : limit ≤ ds.countP fun d => d.effect.asksPage := by
        rcases endless rfl with rfl | many
        · exact le_pages listed fun _ => asksPage_of_lists
        · exact many
      exact (Nat.not_le_of_lt few many).elim
    · exact ⟨found, rfl⟩
  · intro t mem
    cases result with
    | error e => cases mem
    | ok found =>
      obtain ⟨bare, described, rfl⟩ := h.yields (described_ofKind limit kind a) found rfl t mem
      exact ⟨(kind_stamp a bare).trans described.kind_eq, bare, described.unplaced, rfl⟩

/-- The search for the targets of a kind: what is done in all accounts, and what is found in each, by its place
in the line and in the order in which the accounts end. -/
structure Round where
  kind : TargetKind
  log : List Move
  endings : List (Nat × Except Fault (List Target))

def Round.found (r : Round) : List Target := r.endings.flatMap fun e => foundBy e.2

def Round.Ends (r : Round) : Prop := ∀ result ∈ r.endings.map Prod.snd, result ≠ .error .endless

variable {W : Type} (cloud : Cloud W) (size : Nat) (accesses : List Access)

/-- A round leads from one scene to another. Every account is searched once, in a place of the pool. -/
structure Round.Leads (r : Round) (s s' : Scene W) : Prop where
  once : (r.endings.map Prod.fst).Perm (List.range accesses.length)
  each : ∀ e ∈ r.endings, ∃ a ds, accesses[e.1]? = some a ∧ Search cloud.pageLimit r.kind a ds e.2 ∧
    own e.1 r.log = .begins e.1 :: ds.map (.deals e.1) ++ [.ends e.1]
  among : ∀ m ∈ r.log, m.place < accesses.length
  began : (r.log.filterMap Move.begun?).length = accesses.length
  closed : r.log.filterMap Move.ended? = r.endings.map Prod.fst
  bounded : InPlaces (max 1 size) r.log
  replays : Replays cloud.perform { s with world := (cloud.turns s.world).2 } (r.log.filterMap Move.dealing?) s'

inductive Rounds : List Round → Scene W → Scene W → Prop
  | nil (s : Scene W) : Rounds [] s s
  | cons {r : Round} {rs : List Round} {s s' s'' : Scene W} (first : r.Leads cloud size accesses s s')
      (rest : Rounds rs s' s'') : Rounds (r :: rs) s s''

theorem uncut_iff {α : Type} (f : Cloud.FanOut α) :
    f.uncut = true ↔ ∀ result ∈ f.ended.map Prod.snd, result ≠ .error .endless := by
  unfold Cloud.FanOut.uncut
  rw [List.all_eq_true, List.forall_mem_map]
  refine forall₂_congr fun e _ => ?_
  rcases e.2 with (_ | _) | _ <;> simp

theorem exists_round (kind : TargetKind) (s : Scene W) : ∃ r : Round, r.kind = kind ∧
    r.Leads cloud size accesses s (everywhere cloud size accesses kind s).2 ∧
    ∀ found, (everywhere cloud size accesses kind s).1 = some found ↔ r.Ends ∧ found = r.found := by
  obtain ⟨log, endings, unfolds, results⟩ := exists_unfolding cloud.perform size
    (seekers cloud accesses kind) (cloud.turns s.world).1 { s with world := (cloud.turns s.world).2 }
  have lengths : (seekers cloud accesses kind).length = accesses.length := List.length_map _
  refine ⟨⟨kind, log, endings⟩, rfl, ?_, fun found => ?_⟩
  · constructor
    · rw [← lengths]
      exact unfolds.once
    · intro e mem
      obtain ⟨w, ds, line, comes, moves⟩ := unfolds.each e mem
      rw [seekers, List.getElem?_map] at line
      obtain ⟨a, here, rfl⟩ := Option.map_eq_some_iff.1 line
      exact ⟨a, ds, here, search_of_comes comes, moves⟩
    · intro m mem
      rw [← lengths]
      exact unfolds.among m mem
    · rw [← lengths]
      exact unfolds.began
    · exact unfolds.closed
    · exact unfolds.bounded
    · exact unfolds.replays
  · -- whether the round ends and what it finds are told by the results alone
    have ends : (Cloud.FanOut.complete cloud.perform size (seekers cloud accesses kind) (cloud.turns s.world).1
        { s with world := (cloud.turns s.world).2 }).1.uncut = true ↔ Round.Ends ⟨kind, log, endings⟩ := by
      rw [uncut_iff, Round.Ends, results]
      rfl
    have merged : (Cloud.FanOut.run cloud.perform size (seekers cloud accesses kind) (cloud.turns s.world).1
        { s with world := (cloud.turns s.world).2 }).1 = Round.found ⟨kind, log, endings⟩ := by
      have found := congrArg (List.flatMap foundBy) results
      rw [List.flatMap_map, List.flatMap_map] at found
      rw [Cloud.FanOut.run_eq_endings]
      exact found.symm
    rw [← ends, ← merged]
    simp only [everywhere, Cloud.FanOut.run, Option.ite_none_right_eq_some, Option.some.injEq,
      eq_comm (a := found)]

theorem exists_ending {told : (e : Effect) → e.Answer → Prop} {order : List (Worker Target)}
    {endings : List (Access × Except Fault (List Target))}
    (each : List.Forall₂ (Worker.EndsWith told) order endings) {w : Worker Target} (mem : w ∈ order) :
    ∃ e ∈ endings, w.EndsWith told e := by
  induction each with
  | nil => cases mem
  | cons here _ ih =>
    rcases List.mem_cons.1 mem with rfl | mem
    · exact ⟨_, List.mem_cons_self, here⟩
    · obtain ⟨e, later, ends⟩ := ih mem
      exact ⟨e, List.mem_cons_of_mem _ later, ends⟩

variable {cloud size accesses}

namespace Round.Leads

variable {r : Round} {s s' : Scene W} (h : r.Leads cloud size accesses s s')
include h

theorem sends {i : Nat} {d : Dealing} (mem : .deals i d ∈ r.log) : ∃ a ∈ accesses,
    d.effect.Sends fun sender request => sender = a ∧ request.kind = r.kind := by
  -- whoever sends it is in the line, and all that it does is known from its own search
  have place : i ∈ r.endings.map Prod.fst := h.once.mem_iff.2 (List.mem_range.2 (h.among _ mem))
  obtain ⟨e, ending, rfl⟩ := List.mem_map.1 place
  obtain ⟨a, ds, here, search, moves⟩ := h.each e ending
  have mine : .deals e.1 d ∈ own e.1 r.log := List.mem_filter.2 ⟨mem, by simp [Move.place]⟩
  rw [moves] at mine
  have dealt : d ∈ ds := by simpa using mine
  exact ⟨a, List.mem_of_getElem? here, search.sends d dealt⟩

theorem calls : ∃ calls, s'.calls.toList = s.calls.toList ++ calls ∧
    ∀ call ∈ calls, call.1 ∈ accesses ∧ call.2.kind = r.kind := by
  have later := Cloud.calls_of_replays h.replays
  refine ⟨_, later, ?_⟩
  intro call mem
  obtain ⟨d, dealing, sent⟩ := List.mem_filterMap.1 mem
  obtain ⟨m, moved, dealt⟩ := List.mem_filterMap.1 dealing
  cases m with
  | begins | ends => cases dealt
  | deals i d' =>
    cases dealt
    obtain ⟨a, known, sends⟩ := h.sends moved
    obtain ⟨rfl, kind⟩ := Dealing.of_call? sends sent
    exact ⟨known, kind⟩

theorem found_kind : ∀ t ∈ r.found, t.kind = r.kind := by
  intro t mem
  obtain ⟨e, ending, found⟩ := List.mem_flatMap.1 mem
  obtain ⟨_, _, _, search, _⟩ := h.each e ending
  exact (search.found t found).1

theorem balanced : (r.log.filterMap Move.begun?).length = (r.log.filterMap Move.ended?).length := by
  rw [h.began, h.closed, h.once.length_eq, List.length_range]

end Round.Leads

namespace Rounds

variable {rounds : List Round} {s s' : Scene W} (h : Rounds cloud size accesses rounds s s')
include h

theorem bounded : InPlaces (max 1 size) (rounds.flatMap Round.log) := by
  induction h with
  | nil => exact .nil _
  | cons first _ ih => exact first.bounded.append ih first.balanced.le

theorem calls : ∃ calls, s'.calls.toList = s.calls.toList ++ calls ∧
    ∀ call ∈ calls, call.1 ∈ accesses ∧ call.2.kind ∈ rounds.map Round.kind := by
  induction h with
  | nil => exact ⟨[], (List.append_nil _).symm, List.forall_mem_nil _⟩
  | cons first _ ih =>
    obtain ⟨calls, now, here⟩ := first.calls
    obtain ⟨more, after, later⟩ := ih
    refine ⟨calls ++ more, ?_, List.forall_mem_append.2 ⟨?_, ?_⟩⟩
    · rw [after, now, List.append_assoc]
    · intro call mem
      obtain ⟨known, kind⟩ := here call mem
      exact ⟨known, kind ▸ List.mem_cons_self⟩
    · intro call mem
      obtain ⟨known, kind⟩ := later call mem
      exact ⟨known, List.mem_cons_of_mem _ kind⟩

theorem found_kind : ∀ t ∈ rounds.flatMap Round.found, t.kind ∈ rounds.map Round.kind := by
  induction h with
  | nil => exact List.forall_mem_nil _
  | cons first _ ih =>
    intro t mem
    rcases List.mem_append.1 mem with here | later
    · exact first.found_kind t here ▸ List.mem_cons_self
    · exact List.mem_cons_of_mem _ (ih t later)

end Rounds

theorem exists_rounds (cloud : Cloud W) (size : Nat) (accesses : List Access) (kinds : List TargetKind)
    (s : Scene W) : ∃ rounds, Rounds cloud size accesses rounds s (discover cloud size accesses kinds s).2 ∧
      rounds.map Round.kind <+: kinds ∧ ((∀ r ∈ rounds, r.Ends) → rounds.map Round.kind = kinds) ∧
      ∀ targets, (discover cloud size accesses kinds s).1 = some targets ↔
        (∀ r ∈ rounds, r.Ends) ∧ targets = rounds.flatMap Round.found := by
  induction kinds generalizing s with
  | nil => exact ⟨[], .nil s, List.nil_prefix, fun _ => rfl, by simp [discover, eq_comm]⟩
  | cons kind kinds ih =>
    obtain ⟨r, rfl, first, found⟩ := exists_round cloud size accesses kind s
    cases here : everywhere cloud size accesses r.kind s with
    | mk part s₁ =>
      rw [here] at first found
      cases part with
      | none =>
        have endless : ¬ r.Ends := by
          intro ends
          cases (found r.found).2 ⟨ends, rfl⟩
        refine ⟨[r], ?_, by simp, ?_, ?_⟩
        · simp only [discover, here]
          exact .cons first (.nil _)
        · exact fun ends => (endless (ends r List.mem_cons_self)).elim
        · simp [discover, here, endless]
      | some part =>
        obtain ⟨ends, rfl⟩ := (found part).1 rfl
        obtain ⟨rounds, rest, begun, all, more⟩ := ih s₁
        refine ⟨r :: rounds, ?_, ?_, ?_, fun targets => ?_⟩
        · simp only [discover, here]
          exact .cons first rest
        · exact (List.prefix_cons_inj _).2 begun
        · exact fun every => congrArg (r.kind :: ·) (all fun r mem => every r (List.mem_cons_of_mem _ mem))
        · simp only [discover, here, Option.map_eq_some_iff, more, List.forall_mem_cons, List.flatMap_cons]
          constructor
          · rintro ⟨later, ⟨every, rfl⟩, rfl⟩
            exact ⟨⟨ends, every⟩, rfl⟩
          · rintro ⟨⟨-, every⟩, rfl⟩
            exact ⟨_, ⟨every, rfl⟩, rfl⟩

/-- A search goes kind after kind in a fixed order, and in it the accounts are asked in the places of the pool.
Each of them adds its targets of a kind in one piece, unless its own listing of that kind is refused. Only a
listing that goes on for ever keeps the search from ending. If it ends, the limit of pages makes no
difference. -/
theorem merged_kind_by_kind (cloud : Cloud W) (size : Nat) (accesses : List Access) (d : DiscoverySettings)
    (s : Scene W) :
    let enabled := [.lambda, .nodeGroup, .broker, .template].filter d.isEnabled
    let r := discover cloud size accesses d.kinds s
    ∃ rounds, Rounds cloud size accesses rounds s r.2 ∧ rounds.map Round.kind <+: enabled ∧
      ((∀ round ∈ rounds, round.Ends) → rounds.map Round.kind = enabled) ∧
      (∀ targets, r.1 = some targets ↔
        (∀ round ∈ rounds, round.Ends) ∧ targets = rounds.flatMap Round.found) ∧
      (∀ targets, r.1 = some targets → (∀ t ∈ targets, d.isEnabled t.kind) ∧
        ∀ more, cloud.pageLimit ≤ more →
          discover { cloud with pageLimit := more } size accesses d.kinds s = r) ∧
      InPlaces (max 1 size) (rounds.flatMap Round.log) ∧
      ∃ calls, r.2.calls.toList = s.calls.toList ++ calls ∧
        ∀ call ∈ calls, call.1 ∈ accesses ∧ d.isEnabled call.2.kind := by
  intro order r
  obtain ⟨rounds, leads, begun, all, found⟩ := exists_rounds cloud size accesses d.kinds s
  have enabled {kind : TargetKind} (mem : kind ∈ rounds.map Round.kind) : d.isEnabled kind :=
    (List.mem_filter.1 (begun.subset mem)).2
  obtain ⟨calls, later, sent⟩ := leads.calls
  refine ⟨rounds, leads, begun, all, found, ?_, leads.bounded, calls, later, ?_⟩
  · intro targets done
    have ended : r = (some targets, r.2) := Prod.ext done rfl
    refine ⟨fun t mem => ?_, fun more le => (discover_of_le ended le).trans ended.symm⟩
    obtain ⟨-, rfl⟩ := (found targets).1 done
    exact enabled (leads.found_kind t mem)
  · intro call mem
    obtain ⟨known, kind⟩ := sent call mem
    exact ⟨known, enabled kind⟩

def NeverLast (cloud : Cloud W) (a : Access) : Prop :=
  ∀ token w, ∃ page next, (cloud.send a (.listTemplates token) w).1 = .ok page ∧ page.next = some next

section endless

variable {a : Access} (mem : a ∈ accesses) (neverLast : NeverLast cloud a)
include mem neverLast

theorem templates_endless (s : Scene W) : (everywhere cloud size accesses .template s).1 = none := by
  by_contra ends
  obtain ⟨found, done⟩ := Option.ne_none_iff_exists'.1 ends
  obtain ⟨uncut, -⟩ := everywhere_eq_some.1 (Prod.ext done rfl)
  have keeps (w : Worker Target) (_ : w ∈ seekers cloud accesses .template) :=
    Cloud.FanOut.Course.keeps_told cloud.perform w
  obtain ⟨⟨order, perm, -, each⟩, -⟩ := Cloud.FanOut.exists_order (s := { s with world := _ }) keeps size
    (cloud.turns s.world).1 trivial
  have among : ⟨a, templates cloud.pageLimit a⟩ ∈ order := perm.mem_iff.2 (List.mem_map_of_mem mem)
  obtain ⟨e, ended, -, reached⟩ := exists_ending each among
  -- whenever it is asked, the service gives a token
  have obeys : (templates cloud.pageLimit a).Obeys (Cloud.FanOut.Told cloud.perform) (fun _ => True)
      (· = .error .endless) := by
    refine (Plan.Obeys.gather_endless (fun token => .perform trivial ?_) _ _).bind fun g endless =>
      .done (Gathered.whole_eq_error.2 endless)
    rintro _ ⟨s, rfl⟩
    exact .done (neverLast token s.world)
  have endless := obeys.kind_of_reached reached
  exact (uncut_iff _).1 uncut _ (List.mem_map_of_mem ended) endless

theorem discover_endless {kinds : List TargetKind} (asked : .template ∈ kinds) (s : Scene W) :
    (discover cloud size accesses kinds s).1 = none := by
  have never (targets : List Target) (s' : Scene W) :
      discover cloud size accesses kinds s ≠ (some targets, s') := by
    intro done
    induction kinds generalizing s targets with
    | nil => cases asked
    | cons kind kinds ih =>
      obtain ⟨found, s₁, more, first, later, -⟩ := discover_cons_eq_some.1 done
      rcases List.mem_cons.1 asked with rfl | asked
      · cases (congrArg Prod.fst first).symm.trans (templates_endless mem neverLast s)
      · exact ih asked s₁ more later
  exact Option.eq_none_iff_forall_ne_some.2 fun targets done => never targets _ (Prod.ext done rfl)

end endless

/-- A service may go on giving tokens, and then the search does not end, whatever the limit. -/
theorem search_without_end : ¬ ∀ (cloud : Cloud Command.Offline) (size : Nat) (accesses : List Access)
    (d : DiscoverySettings) (s : Scene Command.Offline), ∃ limit targets,
      (discover { cloud with pageLimit := limit } size accesses d.kinds s).1 = some targets := by
  intro ends
  obtain ⟨limit, targets, done⟩ :=
    ends (offering fun _ => some "T") 1 [office] ⟨false, false, false, true⟩ { world := {} }
  have neverLast : NeverLast { offering fun _ => some "T" with pageLimit := limit } office :=
    fun token w => ⟨_, "T", rfl, rfl⟩
  rw [discover_endless List.mem_cons_self neverLast (by decide)] at done
  cases done

end Inventory

end GameDay
