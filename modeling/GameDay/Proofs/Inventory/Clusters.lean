import GameDay.Inventory.Brokers
import GameDay.Proofs.Cloud.Paging

/-!
The search for brokers: two listings, one inside the other. A page of clusters that is refused ends it, and
a page of nodes that is refused costs the brokers of its own cluster only.
-/

namespace GameDay.Inventory

open Cloud (Chained Cluster ClusterNode Gathered Listing Outcome Request Scene Taken Visit complete sent)

variable {W : Type} {cloud : Cloud W} {a : Access} {limit : Nat} {c : Cluster} {s s' : Scene W}

def searched? (c : Cluster) : Option String := if c.type = some provisioned then c.arn else none

structure ClusterVisit where
  cluster : Cluster
  nodes : List (Visit ClusterNode ClusterNode)

namespace ClusterVisit

def targets (a : Access) (v : ClusterVisit) : List Target :=
  match searched? v.cluster with
  | some _ =>
    if complete .always v.nodes then
      ((v.nodes.flatMap Visit.listed).filterMap (brokerTarget? v.cluster)).map a.stamp
    else []
  | none => []

def ends (v : ClusterVisit) : Bool :=
  (searched? v.cluster).isNone || v.nodes.any (·.next? .always = none)

def kept (a : Access) (v : ClusterVisit) : List (Option Target) :=
  if v.ends then (v.targets a).map some else [none]

def calls (a : Access) (v : ClusterVisit) : List (Access × Request) :=
  match searched? v.cluster with
  | some arn => v.nodes.flatMap fun page => sent a (.listNodes arn page.token)
  | none => []

end ClusterVisit

inductive Visiting (cloud : Cloud W) (a : Access) (limit : Nat) :
    Cluster → Scene W → ClusterVisit → Scene W → Prop
  | passed {c : Cluster} {s : Scene W} (unsearched : searched? c = none) :
      Visiting cloud a limit c s ⟨c, []⟩ s
  | visited {c : Cluster} {arn : String} {s s' : Scene W} {vs : List (Visit ClusterNode ClusterNode)}
      (searched : searched? c = some arn)
      (nodes : Listing cloud (fun token => .send a (.listNodes arn token)) .always Taken limit none s vs s') :
      Visiting cloud a limit c s ⟨c, vs⟩ s'

theorem brokerTarget?_isSome_iff (c : Cluster) (n : ClusterNode) :
    (brokerTarget? c n).isSome ↔ ∃ broker, n.broker = some broker ∧ broker.id.isSome := by
  unfold brokerTarget?
  cases n.broker with
  | none => simp
  | some broker => cases h : broker.id <;> simp [h]

namespace Visiting

variable {v : ClusterVisit}

theorem cluster_eq (h : Visiting cloud a limit c s v s') : v.cluster = c := by
  cases h <;> rfl

theorem chained (h : Visiting cloud a limit c s v s') (searched : (searched? v.cluster).isSome) :
    Chained .always limit none v.nodes := by
  cases h with
  | passed unsearched =>
    rw [unsearched] at searched
    cases searched
  | visited _ nodes => exact nodes.chained

theorem calls (h : Visiting cloud a limit c s v s') : s'.calls.toList = s.calls.toList ++ v.calls a := by
  cases h with
  | passed unsearched => simp [ClusterVisit.calls, unsearched]
  | visited searched nodes =>
    rename_i arn vs
    have listed := nodes.calls (.listNodes arn) (fun _ => []) (fun _ _ _ _ => Cloud.calls_send)
      fun _ _ _ _ taken => by simp [taken.2]
    have nothing (nodes : List ClusterNode) :
        nodes.flatMap (fun _ => ([] : List (Access × Request))) = [] := by simp
    simpa [ClusterVisit.calls, searched, nothing] using listed

end Visiting

theorem exists_nodes (cloud : Cloud W) (a : Access) (limit : Nat) (arn : String) (s : Scene W) : ∃ vs g s',
    Listing cloud (fun token => .send a (.listNodes arn token)) .always Taken limit none s vs s' ∧
    Outcome .always limit (fun n => [n]) vs g ∧ cloud.run (clusterNodes limit a arn) s = (g.whole, s') :=
  Cloud.exists_whole_listing _ _ (fun n _ => ⟨n, ⟨rfl, rfl⟩, rfl⟩) limit none s

theorem clusterBrokers_passed (unsearched : searched? c = none) : clusterBrokers limit a c = pure [] := by
  unfold searched? at unsearched
  unfold clusterBrokers
  split
  · rename_i arn known
    split at unsearched
    · cases known.symm.trans unsearched
    · rename_i other
      rw [if_neg other]
  · rfl

theorem clusterBrokers_visited {arn : String} (searched : searched? c = some arn) :
    clusterBrokers limit a c = do
      match ← clusterNodes limit a arn with
      | .ok nodes => return (nodes.filterMap (brokerTarget? c)).map fun t => some (a.stamp t)
      | .error (.refused _) => return []
      | .error .endless => return [none] := by
  obtain ⟨own, name, type, state, tags⟩ := c
  unfold searched? at searched
  split at searched
  · rename_i provisioned
    cases searched
    exact if_pos provisioned
  · cases searched

theorem exists_visit (cloud : Cloud W) (a : Access) (limit : Nat) (c : Cluster) (s : Scene W) :
    ∃ v, Visiting cloud a limit c s v (cloud.run (clusterBrokers limit a c) s).2 ∧
      (cloud.run (clusterBrokers limit a c) s).1 = v.kept a := by
  cases search : searched? c with
  | none =>
    rw [clusterBrokers_passed search]
    refine ⟨_, .passed search, ?_⟩
    simp only [ClusterVisit.kept, ClusterVisit.ends, ClusterVisit.targets, search]
    rfl
  | some arn =>
    obtain ⟨vs, g, s', nodes, outcome, ran⟩ := exists_nodes cloud a limit arn s
    have whole := outcome.fault_eq_none_iff nodes.chained
    have listed : vs.flatMap (fun v => v.items.flatMap fun n => [n]) = vs.flatMap Visit.listed := by
      refine List.flatMap_congr fun v mem => ?_
      have own := nodes.map_items id (fun _ _ _ _ taken => taken.1) v mem
      rw [List.flatMap_singleton', ← own, List.map_id]
    have ends : ClusterVisit.ends ⟨c, vs⟩ = true ↔ g.fault ≠ some .endless := by
      rw [outcome.finite_iff nodes.chained]
      simp [ClusterVisit.ends, search]
    rw [clusterBrokers_visited search, Cloud.run_bind, ran]
    refine ⟨⟨c, vs⟩, ?_⟩
    unfold Cloud.Gathered.whole ClusterVisit.kept
    rcases fault : g.fault with _ | e | _ <;> rw [fault] at whole ends
    · refine ⟨.visited search nodes, ?_⟩
      rw [if_pos (ends.2 (by simp)), ClusterVisit.targets, outcome.found, listed]
      simp only [search, whole.1 rfl, if_true, List.map_map]
      rfl
    · have partly : ¬ complete .always vs = true := by simp [← whole]
      refine ⟨.visited search nodes, ?_⟩
      rw [if_pos (ends.2 (by simp)), ClusterVisit.targets]
      simp only [search, if_neg partly]
      rfl
    · refine ⟨.visited search nodes, ?_⟩
      rw [if_neg (fun ended => ends.1 ended rfl)]
      rfl

theorem settled_kept {g : Gathered (Option Target)} {vs : List ClusterVisit}
    (found : g.found = vs.flatMap (ClusterVisit.kept a)) : settled g =
      if vs.all ClusterVisit.ends then { g with found := vs.flatMap (ClusterVisit.targets a) : Gathered Target }.whole
      else .error .endless := by
  have each (v : ClusterVisit) : (v.kept a).all Option.isSome = v.ends := by
    unfold ClusterVisit.kept
    split <;> simp_all
  simp only [settled, found, List.all_flatMap, each, List.filterMap_flatMap]
  split
  · rename_i all
    have targets : (vs.flatMap fun v => (v.kept a).filterMap id) = vs.flatMap (ClusterVisit.targets a) := by
      refine List.flatMap_congr fun v mem => ?_
      simp [ClusterVisit.kept, List.all_eq_true.1 all v mem]
    rw [targets]
  · rfl

/-- A search for brokers follows both listings to their ends, and of each cluster finds all brokers or none. It
does not end where one of the listings goes on for ever. -/
theorem brokers_of_complete_clusters (cloud : Cloud W) (a : Access) (limit : Nat) (s : Scene W) :
    let r := cloud.run (brokers limit a) s
    ∃ pages : List (Visit Cluster ClusterVisit),
      Listing cloud (fun token => .send a (.listClusters token)) .always (Visiting cloud a limit) limit none s
        pages r.2 ∧
      Chained .always limit none pages ∧
      (∀ page ∈ pages, page.items.map ClusterVisit.cluster = page.listed ∧
        ∀ v ∈ page.items, (searched? v.cluster).isSome → Chained .always limit none v.nodes) ∧
      ((∃ found, r.1 = .ok found) ↔ complete .always pages = true ∧
        ∀ page ∈ pages, ∀ v ∈ page.items, v.ends = true) ∧
      (∀ found, r.1 = .ok found →
        found = pages.flatMap fun page => page.items.flatMap (ClusterVisit.targets a)) ∧
      r.2.calls.toList = s.calls.toList ++
        pages.flatMap (fun page => sent a (.listClusters page.token) ++
          page.items.flatMap (ClusterVisit.calls a)) ∧
      ∀ c n, (brokerTarget? c n).isSome ↔ ∃ broker, n.broker = some broker ∧ broker.id.isSome := by
  intro r
  obtain ⟨pages, listing, outcome⟩ := Cloud.exists_listing (fun token => .send a (.listClusters token))
    .always (exists_visit cloud a limit) limit none s
  -- the search itself only adds that nothing is listed for ever
  have ran : r = (settled (cloud.run _ s).1, (cloud.run _ s).2) := Cloud.Plan.run_bind _ _ _ _
  have settles := settled_kept (outcome.found.trans (List.flatMap_assoc ..).symm)
  have ends : (pages.flatMap Visit.items).all ClusterVisit.ends = true ↔
      ∀ page ∈ pages, ∀ v ∈ page.items, v.ends = true := by
    simp [List.all_flatMap]
  rw [ran, settles]
  refine ⟨pages, listing, listing.chained, fun page mem => ⟨?_, fun v visited searched => ?_⟩, ?_, ?_, ?_,
    brokerTarget?_isSome_iff⟩
  · exact listing.map_items ClusterVisit.cluster (fun _ _ _ _ visiting => visiting.cluster_eq) page mem
  · obtain ⟨c, s₁, s₂, visiting⟩ := listing.of_mem page mem v visited
    exact visiting.chained searched
  · rw [← ends, ← outcome.fault_eq_none_iff listing.chained]
    split
    · rename_i ended
      simp [Gathered.whole_eq_ok, ended]
    · rename_i unended
      simp [unended]
  · intro found answered
    split at answered
    · rw [← (Gathered.whole_eq_ok.1 answered).2, List.flatMap_assoc]
    · cases answered
  · exact listing.calls .listClusters (ClusterVisit.calls a) (fun _ _ _ _ => Cloud.calls_send) fun _ _ _ _ => Visiting.calls

end GameDay.Inventory
