import GameDay.Command.Discover
import GameDay.Proofs.Inventory.Arrangement
import Mathlib.Data.List.Perm.Basic

namespace GameDay

open Cloud (AgentState Request ServiceError)
open Inventory (AllAnsweredBy AllEnd Answers Arranged InOnePlace Lent inLine inOnePlace_reaches targetsOf)
open Target (Alike SameTargets)

namespace Target

def Is (kind : TargetKind) (id : String) (t : Target) : Bool := t.kind = kind && t.id = id

variable {kind : TargetKind} {id : String} {t u : Target} {shared : String → Prop}

theorem is_iff : t.Is kind id = true ↔ t.kind = kind ∧ t.id = id := by simp [Is]

theorem Alike.is_iff (h : t.Alike shared u) : t.Is kind id = true ↔ u.Is kind id = true := by
  rw [Target.is_iff, Target.is_iff, h.sameBut.kind, h.sameBut.id]

end Target

namespace Command

section Order

variable {t u : Target} {ts us : List Target} {kind : TargetKind} {id : String}

theorem notAfter_iff : notAfter t u = true ↔ t.kind.rank < u.kind.rank ∨
    (t.kind.rank = u.kind.rank ∧ t.id ≤ u.id) := by
  simp [notAfter]

theorem notAfter_trans (t u v : Target) (h : notAfter t u = true) (h' : notAfter u v = true) :
    notAfter t v = true := by
  rw [notAfter_iff] at h h' ⊢
  obtain lt | ⟨rank, le⟩ := h
  · obtain lt' | ⟨rank', _⟩ := h'
    · exact .inl (lt.trans lt')
    · exact .inl (rank' ▸ lt)
  · obtain lt' | ⟨rank', le'⟩ := h'
    · exact .inl (rank ▸ lt')
    · exact .inr ⟨rank.trans rank', String.le_trans le le'⟩

theorem notAfter_total (t u : Target) : (notAfter t u || notAfter u t) = true := by
  rw [Bool.or_eq_true, notAfter_iff, notAfter_iff]
  obtain lt | rank | lt := lt_trichotomy t.kind.rank u.kind.rank
  · exact .inl (.inl lt)
  · obtain le | le := String.le_total t.id u.id
    · exact .inl (.inr ⟨rank, le⟩)
    · exact .inr (.inr ⟨rank.symm, le⟩)
  · exact .inr (.inl lt)

theorem rank_injective : Function.Injective TargetKind.rank := by
  intro k k' same
  cases k <;> cases k' <;> first | rfl | cases same

theorem is_of_notAfter (h : notAfter t u = true) (h' : notAfter u t = true) :
    t.kind = u.kind ∧ t.id = u.id := by
  rw [notAfter_iff] at h h'
  have rank : t.kind.rank = u.kind.rank := by omega
  refine ⟨rank_injective rank, String.le_antisymm ?_ ?_⟩
  · exact (h.resolve_left rank.not_lt).2
  · exact (h'.resolve_left rank.not_gt).2

abbrev Sorted (ts : List Target) : Prop := ts.Pairwise fun t u => notAfter t u = true

theorem sorted_of_is (all : ∀ t ∈ ts, t.Is kind id = true) : Sorted ts := by
  refine List.pairwise_of_forall_mem_list fun t mem u mem' => ?_
  obtain ⟨rfl, rfl⟩ := Target.is_iff.1 (all t mem)
  obtain ⟨kind, id⟩ := Target.is_iff.1 (all u mem')
  exact notAfter_iff.2 (.inr ⟨congrArg _ kind.symm, id ▸ String.le_refl _⟩)

theorem Sorted.head (sorted : Sorted (t :: ts)) : ∀ u ∈ t :: ts, notAfter t u = true := by
  intro u mem
  obtain rfl | mem := List.mem_cons.1 mem
  · exact notAfter_iff.2 (.inr ⟨rfl, String.le_refl _⟩)
  · exact List.rel_of_pairwise_cons sorted mem

theorem filter_mergeSort (ts : List Target) (kind : TargetKind) (id : String) :
    (ts.mergeSort notAfter).filter (·.Is kind id) = ts.filter (·.Is kind id) := by
  have sorted : Sorted (ts.filter (·.Is kind id)) := sorted_of_is fun t mem => (List.mem_filter.1 mem).2
  have kept : (ts.filter (·.Is kind id)).Sublist (ts.mergeSort notAfter) :=
    List.sublist_mergeSort notAfter_trans notAfter_total sorted List.filter_sublist
  have kept' := kept.filter (·.Is kind id)
  rw [List.filter_filter] at kept'
  simp only [Bool.and_self] at kept'
  exact (kept'.eq_of_length ((List.mergeSort_perm ts notAfter).filter _).length_eq.symm).symm

theorem notAfter_head (sorted : Sorted (t :: ts)) {R : Target → Target → Prop}
    (each : List.Forall₂ R ((u :: us).filter (·.Is u.kind u.id)) ((t :: ts).filter (·.Is u.kind u.id))) :
    notAfter t u = true := by
  rw [List.filter_cons_of_pos (Target.is_iff.2 ⟨rfl, rfl⟩)] at each
  obtain ⟨v, vs, _, _, matching⟩ := List.forall₂_cons_left_iff.1 each
  have mem : v ∈ (t :: ts).filter (·.Is u.kind u.id) := matching ▸ List.mem_cons_self
  obtain ⟨listed, is⟩ := List.mem_filter.1 mem
  obtain ⟨kind, id⟩ := Target.is_iff.1 is
  have first := sorted.head v listed
  rw [notAfter_iff] at first ⊢
  rwa [kind, id] at first

theorem forall₂_of_filter {R : Target → Target → Prop} (sorted : Sorted ts) (sorted' : Sorted us)
    (each : ∀ kind id, List.Forall₂ R (ts.filter (·.Is kind id)) (us.filter (·.Is kind id))) :
    List.Forall₂ R ts us := by
  induction ts generalizing us with
  | nil =>
    cases us with
    | nil => exact .nil
    | cons u us =>
      have first := each u.kind u.id
      rw [List.filter_cons_of_pos (Target.is_iff.2 ⟨rfl, rfl⟩)] at first
      cases first
  | cons t ts ih =>
    cases us with
    | nil =>
      have first := each t.kind t.id
      rw [List.filter_cons_of_pos (Target.is_iff.2 ⟨rfl, rfl⟩)] at first
      cases first
    | cons u us =>
      obtain ⟨kind, id⟩ := is_of_notAfter (notAfter_head sorted (each u.kind u.id).flip)
        (notAfter_head sorted' (each t.kind t.id))
      have same (k : TargetKind) (i : String) : u.Is k i = t.Is k i := by
        unfold Target.Is
        rw [kind, id]
      have first := each t.kind t.id
      rw [List.filter_cons_of_pos (Target.is_iff.2 ⟨rfl, rfl⟩),
        List.filter_cons_of_pos (by rw [same]; exact Target.is_iff.2 ⟨rfl, rfl⟩)] at first
      obtain _ | ⟨here, _⟩ := first
      refine .cons here (ih sorted.of_cons sorted'.of_cons fun k i => ?_)
      have rest := each k i
      cases is : t.Is k i with
      | true =>
        rw [List.filter_cons_of_pos is, List.filter_cons_of_pos ((same k i).trans is)] at rest
        cases rest with
        | cons _ rest => exact rest
      | false =>
        have other : ¬ t.Is k i = true := by simp [is]
        rwa [List.filter_cons_of_neg other, List.filter_cons_of_neg ((same k i).symm ▸ other)] at rest

end Order

def Selected (kind : Option TargetKind) (t : Target) : Bool := kind = none ∨ kind = some t.kind

/-- All targets of the selected kinds by kind and id, but for some estimates that are shared. -/
structure Listing (all : List Target) (kind : Option TargetKind) (shared : String → Prop)
    (ts : List Target) : Prop where
  sorted : Sorted ts
  complete : ∃ us, us.Perm (all.filter (Selected kind)) ∧ List.Forall₂ (Alike shared) ts us

/-- The targets of a kind and id, if they are selected, are all found in one account and region. -/
def OnePlace (targets : TargetKind → Access → List Target) (accesses : List Access)
    (kind : Option TargetKind) (k : TargetKind) (id : String) : Prop :=
  kind = none ∨ kind = some k → InOnePlace targets accesses (·.Is k id)

/-- What two listings have in common. Only targets of several places stand in either order, and only if
they are of one kind and have one id. -/
structure Agree (onePlace : TargetKind → String → Prop) (shared : String → Prop) (ts us : List Target) :
    Prop where
  keys : List.Forall₂ (fun t u => t.kind = u.kind ∧ t.id = u.id) ts us
  places : ∀ A : Access, List.Forall₂ (Alike shared) (ts.filter A.reaches) (us.filter A.reaches)
  each : ∀ kind id, onePlace kind id →
    List.Forall₂ (Alike shared) (ts.filter (·.Is kind id)) (us.filter (·.Is kind id))
  whole : (∀ kind id, onePlace kind id) → List.Forall₂ (Alike shared) ts us
  same : (∀ kind id, onePlace kind id) → (∀ id, ¬ shared id) → SameTargets ts us

theorem forall₂_of_length {α β : Type} {R : α → β → Prop} {xs : List α} {ys : List β}
    (length : xs.length = ys.length) (all : ∀ x ∈ xs, ∀ y ∈ ys, R x y) : List.Forall₂ R xs ys := by
  induction xs generalizing ys with
  | nil =>
    cases ys with
    | nil => exact .nil
    | cons => cases length
  | cons x xs ih =>
    cases ys with
    | nil => cases length
    | cons y ys =>
      refine .cons (all x List.mem_cons_self y List.mem_cons_self) (ih (Nat.succ.inj length) ?_)
      intro x mem y mem'
      exact all x (List.mem_cons_of_mem _ mem) y (List.mem_cons_of_mem _ mem')

theorem Listing.keys {all ts us : List Target} {kind : Option TargetKind} {shared more : String → Prop}
    (h : Listing all kind shared ts) (h' : Listing all kind more us) :
    List.Forall₂ (fun t u => t.kind = u.kind ∧ t.id = u.id) ts us := by
  have counted {shared : String → Prop} {ts : List Target} (h : Listing all kind shared ts) (k : TargetKind)
      (i : String) :
      (ts.filter (·.Is k i)).length = ((all.filter (Selected kind)).filter (·.Is k i)).length := by
    obtain ⟨us, perm, alike⟩ := h.complete
    have kept : List.Forall₂ (Alike shared) (ts.filter (·.Is k i)) (us.filter (·.Is k i)) :=
      List.rel_filter (fun _ _ alike => alike.is_iff) alike
    rw [kept.length_eq, (perm.filter _).length_eq]
  refine forall₂_of_filter h.sorted h'.sorted fun k i => ?_
  refine forall₂_of_length ((counted h k i).trans (counted h' k i).symm) fun t mem u mem' => ?_
  obtain ⟨rfl, rfl⟩ := Target.is_iff.1 (List.mem_filter.1 mem).2
  obtain ⟨kind, id⟩ := Target.is_iff.1 (List.mem_filter.1 mem').2
  exact ⟨kind.symm, id.symm⟩

theorem shown_sorted (kind : Option TargetKind) (ts : List Target) : Sorted (shown kind ts) :=
  List.pairwise_mergeSort notAfter_trans notAfter_total _

theorem shown_of_sorted {ts : List Target} (sorted : Sorted ts) : shown none ts = ts := by
  unfold shown
  rw [List.filter_eq_self.2 fun _ _ => by simp]
  exact List.mergeSort_of_pairwise sorted

theorem shown_of_other {kind : Option TargetKind} {k : TargetKind} (other : ¬ (kind = none ∨ kind = some k))
    (id : String) (ts : List Target) : (shown kind ts).filter (·.Is k id) = [] := by
  rw [List.filter_eq_nil_iff]
  intro t mem is
  obtain ⟨rfl, _⟩ := Target.is_iff.1 is
  have selected := (List.mem_filter.1 (List.mem_mergeSort.1 mem)).2
  exact other (of_decide_eq_true selected)

section Found

variable {limit : Nat} {unsent : ServiceError} {answers : Answers} {accesses : List Access}
  {kinds : List TargetKind} {found ts found' ts' : List Target} {shared more : String → Prop}

theorem selected_iff {t u : Target} {kind : Option TargetKind} (h : t.Alike shared u) :
    Selected kind t = true ↔ Selected kind u = true := by
  unfold Selected
  rw [h.sameBut.kind]

theorem listing_shown {targets : TargetKind → Access → List Target}
    (arranged : Arranged targets accesses kinds ts) (alike : List.Forall₂ (Alike shared) found ts)
    (kind : Option TargetKind) :
    Listing (inLine targets accesses kinds) kind shared (shown kind found) := by
  refine ⟨shown_sorted kind found, ?_⟩
  have kept : List.Forall₂ (Alike shared) (found.filter (Selected kind)) (ts.filter (Selected kind)) :=
    List.rel_filter (fun _ _ alike => selected_iff alike) alike
  obtain ⟨us, alike, perm⟩ := List.perm_comp_forall₂ (List.mergeSort_perm _ notAfter) kept
  exact ⟨us, perm.trans (arranged.perm.filter _), alike⟩

theorem shown_in_one_place (arranged : Arranged (targetsOf limit unsent answers) accesses kinds ts)
    (alike : List.Forall₂ (Alike shared) found ts) (kind : Option TargetKind) {p : Target → Bool}
    (one : InOnePlace (targetsOf limit unsent answers) accesses p)
    (even : ∀ t u, t.Alike shared u → (p t = true ↔ p u = true)) (k : TargetKind) (id : String) :
    List.Forall₂ (Alike shared) (((shown kind found).filter p).filter (·.Is k id))
      ((((inLine (targetsOf limit unsent answers) accesses kinds).filter p).filter (Selected kind)).filter
        (·.Is k id)) := by
  have kept : List.Forall₂ (Alike shared) (((found.filter p).filter (Selected kind)).filter (·.Is k id))
      (((ts.filter p).filter (Selected kind)).filter (·.Is k id)) :=
    List.rel_filter (fun _ _ alike => alike.is_iff) <|
      List.rel_filter (fun _ _ alike => selected_iff alike) <| List.rel_filter even alike
  rw [arranged.filter_one one, List.filter_comm (Selected kind) p found, List.filter_comm _ p] at kept
  rw [List.filter_comm _ p]
  unfold shown
  rw [filter_mergeSort]
  exact kept

theorem shown_alike (arranged : Arranged (targetsOf limit unsent answers) accesses kinds ts)
    (alike : List.Forall₂ (Alike shared) found ts)
    (arranged' : Arranged (targetsOf limit unsent answers) accesses kinds ts')
    (alike' : List.Forall₂ (Alike more) found' ts') (kind : Option TargetKind) {p : Target → Bool}
    (one : InOnePlace (targetsOf limit unsent answers) accesses p)
    (even : ∀ {t u} {shared : String → Prop}, t.Alike shared u → (p t = true ↔ p u = true)) :
    List.Forall₂ (Alike fun id => shared id ∨ more id) ((shown kind found).filter p)
      ((shown kind found').filter p) := by
  refine forall₂_of_filter ((shown_sorted kind found).filter p) ((shown_sorted kind found').filter p) ?_
  intro k id
  refine (forall₂_meet (shown_in_one_place arranged alike kind one (fun _ _ => even) k id)
    (shown_in_one_place arranged' alike' kind one (fun _ _ => even) k id)).imp ?_
  rintro t u ⟨v, first, second⟩
  exact (first.mono fun _ => .inl).trans (second.mono fun _ => .inr).symm

theorem agree_shown (arranged : Arranged (targetsOf limit unsent answers) accesses kinds ts)
    (alike : List.Forall₂ (Alike shared) found ts)
    (arranged' : Arranged (targetsOf limit unsent answers) accesses kinds ts')
    (alike' : List.Forall₂ (Alike more) found' ts') (kind : Option TargetKind) :
    Agree (OnePlace (targetsOf limit unsent answers) accesses kind) (fun id => shared id ∨ more id)
      (shown kind found) (shown kind found') := by
  have each (k : TargetKind) (id : String)
      (one : OnePlace (targetsOf limit unsent answers) accesses kind k id) :
      List.Forall₂ (Alike fun id => shared id ∨ more id) ((shown kind found).filter (·.Is k id))
        ((shown kind found').filter (·.Is k id)) := by
    by_cases selected : kind = none ∨ kind = some k
    · exact shown_alike arranged alike arranged' alike' kind (one selected) fun alike => alike.is_iff
    · rw [shown_of_other selected, shown_of_other selected]
      exact .nil
  have whole (one : ∀ k id, OnePlace (targetsOf limit unsent answers) accesses kind k id) :=
    forall₂_of_filter (shown_sorted kind found) (shown_sorted kind found') fun k id => each k id (one k id)
  constructor
  · exact (listing_shown arranged alike kind).keys (listing_shown arranged' alike' kind)
  · intro A
    refine shown_alike arranged alike arranged' alike' kind (inOnePlace_reaches A) fun alike => ?_
    rw [alike.reaches]
  · exact each
  · exact whole
  · intro one unshared
    exact (whole one).imp fun t u alike => alike.same_of_unshared unshared

end Found

section Runs

variable {W : Type} {cloud : Cloud W} {answers : Answers}

def searched (cloud : Cloud W) (settings : Cloud.Settings) (w : W) : Option (List Target) × Cloud.Scene W :=
  Inventory.discover cloud settings.poolSize settings.registry.accesses settings.discovery.kinds { world := w }

theorem discovered_of_accesses (cloud : Cloud W) {settings : Cloud.Settings} (some : settings.accesses ≠ [])
    (w : W) : discovered cloud settings w = (searched cloud settings w).1.map fun targets =>
      (.ok targets, ⟨(searched cloud settings w).2, none, .idle⟩) := by
  have loaded : settings.registry.isEmpty = false := by
    simpa [Cloud.Settings.registry, Registry.isEmpty] using some
  unfold discovered Cloud.prepare Cloud.discover
  rw [if_neg some]
  simp only [AgentState.reply, loaded, Bool.false_eq_true, if_false, Option.map_map]
  rfl

theorem searched_arranged (answered : AllAnsweredBy cloud answers) (settings : Cloud.Settings) (w : W) :
    ((searched cloud settings w).1.isSome ↔
      ∀ kind ∈ settings.discovery.kinds, AllEnd cloud answers settings.registry.accesses kind) ∧
    ∀ found, (searched cloud settings w).1 = some found → ∃ ts,
      Arranged (targetsOf cloud.pageLimit cloud.unsent answers) settings.registry.accesses
        settings.discovery.kinds ts ∧
      List.Forall₂ (Alike (Lent (targetsOf cloud.pageLimit cloud.unsent answers) settings.registry.accesses
        (searched cloud settings w).2)) found ts := by
  have fresh : ∀ x ∈ settings.registry.accesses, Inventory.AllExplained x
      (Inventory.tellsThrough cloud.unsent answers x) ({ world := w } : Cloud.Scene W) :=
    fun x _ => .of_empty rfl
  refine ⟨Inventory.discover_isSome_iff answered _ _ fresh, fun found done => ?_⟩
  exact (Inventory.discover_arranged answered _ _ fresh (Prod.ext done rfl)).2

/-- Whatever turns the accesses take, the same targets are listed by kind and id, unless some listing goes on
for ever. -/
theorem listings_agree (answered : AllAnsweredBy cloud answers) (l : Loaded) (kind : Option TargetKind) :
    let targets := targetsOf cloud.pageLimit cloud.unsent answers
    let accesses := l.settings.registry.accesses
    let lent w := Lent targets accesses (searched cloud l.settings w).2
    (l.settings.accesses = [] ∧ ∀ json w, discover cloud l kind json w =
      ({} : Output).failing { message := (Error.config "No AWS accesses configured").message }) ∨
    ((∃ k ∈ l.settings.discovery.kinds, ¬ AllEnd cloud answers accesses k) ∧
      ∀ json w, discover cloud l kind json w = { ends := false }) ∨
    ∃ listed : W → List Target,
      (∀ json w, discover cloud l kind json w = { out := targetsText json (listed w) }) ∧
      (∀ w, Listing (inLine targets accesses l.settings.discovery.kinds) kind (lent w) (listed w)) ∧
      ∀ w w', Agree (OnePlace targets accesses kind) (fun id => lent w id ∨ lent w' id) (listed w)
        (listed w') := by
  intro targets accesses lent
  by_cases none : l.settings.accesses = []
  · refine .inl ⟨none, fun json w => ?_⟩
    unfold discover discovered Cloud.prepare
    rw [if_pos none]
    rfl
  right
  by_cases ends : ∀ k ∈ l.settings.discovery.kinds, AllEnd cloud answers accesses k
  · right
    have done (w : W) : ∃ found, (searched cloud l.settings w).1 = some found :=
      Option.isSome_iff_exists.1 ((searched_arranged answered l.settings w).1.2 ends)
    choose found search using done
    choose ts arranged alike using fun w => (searched_arranged answered l.settings w).2 (found w) (search w)
    refine ⟨fun w => shown kind (found w), fun json w => ?_, ?_, ?_⟩
    · unfold discover
      rw [discovered_of_accesses cloud none, search w]
      rfl
    · exact fun w => listing_shown (arranged w) (alike w) kind
    · exact fun w w' => agree_shown (arranged w) (alike w) (arranged w') (alike w') kind
  · refine .inl ⟨by simpa using ends, fun json w => ?_⟩
    have never : (searched cloud l.settings w).1 = Option.none := by
      rw [← (searched_arranged answered l.settings w).1] at ends
      simpa using ends
    unfold discover
    rw [discovered_of_accesses cloud none, never]
    rfl

end Runs

namespace inTurns

def answers : Answers := fun account _ =>
  if account = "2" then Inventory.sevenMinutes else Inventory.twoMinutes

def cloud : Cloud (List Nat) where
  send x request w := (answers x.account x.region request, w)
  unsent := { text := "empty identifier" }
  calendar _ := ⟨5⟩
  clock _ := .zero
  freshId w := (⟨0⟩, w)
  sleep _ w := w
  turns w := (w, w)
  pageLimit := 2

def loaded : Loaded where
  path := "aws.yml"
  config := { targetConfig := .null }
  settings := ⟨[⟨"1", "eu", none⟩, ⟨"2", "eu", none⟩], 2, ⟨false, false, false, true⟩⟩

theorem answered : AllAnsweredBy cloud answers := fun _ request _ => .refl request _

def otherTurns : List Nat := List.replicate 8 1

/-- Both accounts' templates are listed, whichever account ends first. -/
theorem listed_in_any_turns : ∃ listed : List Nat → List Target,
    (∀ w, discover cloud loaded (some .template) true w = { out := targetsText true (listed w) }) ∧
    ∀ w, (listed w).map (·.id) = ["EXT1", "EXT1"] := by
  obtain ⟨none, _⟩ | ⟨_, never⟩ | ⟨listed, out, lists, _⟩ := listings_agree answered loaded (some .template)
  · cases none
  · have ends : (discover cloud loaded (some .template) true []).ends = true := by decide +kernel
    rw [never] at ends
    cases ends
  · refine ⟨listed, out true, fun w => ?_⟩
    obtain ⟨us, perm, alike⟩ := (lists w).complete
    have ids : List.Forall₂ (· = ·) ((listed w).map (·.id)) (us.map (·.id)) :=
      List.forall₂_map_left_iff.2 (List.forall₂_map_right_iff.2 (alike.imp fun _ _ h => h.sameBut.id))
    rw [List.forall₂_eq_eq_eq] at ids
    have all := perm.map (·.id)
    rw [← ids] at all
    have expected : ((inLine (targetsOf cloud.pageLimit cloud.unsent answers) loaded.settings.registry.accesses
        loaded.settings.discovery.kinds).filter (Selected (some .template))).map (·.id) =
          List.replicate 2 "EXT1" := by
      decide +kernel
    rw [expected] at all
    exact List.perm_replicate.1 all

def found (turns : List Nat) : List Target := (searched cloud loaded.settings turns).1.getD []

theorem shown_found : shown none (found []) = found [] ∧ shown none (found otherTurns) = found otherTurns :=
  ⟨shown_of_sorted (by decide +kernel), shown_of_sorted (by decide +kernel)⟩

/-- Templates with one id in two accounts are listed in the order in which the accounts end. -/
theorem listed_otherwise : ¬ ∀ (cloud : Cloud (List Nat)) (answers : Answers), AllAnsweredBy cloud answers →
    ∀ (l : Loaded) (kind : Option TargetKind) (w w' : List Nat) (r r' : _ × _),
      discovered cloud l.settings w = some r → discovered cloud l.settings w' = some r' →
      ∀ found found' : List Target, r.1 = .ok found → r'.1 = .ok found' →
        SameTargets (shown kind found) (shown kind found') := by
  intro alike
  have search (w : List Nat) (ends : (searched cloud loaded.settings w).1.isSome) :
      discovered cloud loaded.settings w = some (.ok (found w), ⟨(searched cloud loaded.settings w).2, none, .idle⟩) := by
    rw [discovered_of_accesses cloud (by decide), found]
    obtain ⟨targets, done⟩ := Option.isSome_iff_exists.1 ends
    rw [done]
    rfl
  have same := alike cloud answers answered loaded none [] otherTurns _ _ (search _ (by decide +kernel))
    (search _ (by decide +kernel)) _ _ rfl rfl
  rw [shown_found.1, shown_found.2] at same
  have no_label : ¬ Target.IsLabel Target.accountKey := by decide
  have accounts := same.values_eq no_label
  revert accounts
  decide +kernel

end inTurns

end Command

end GameDay
