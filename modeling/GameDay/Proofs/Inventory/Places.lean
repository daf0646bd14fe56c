import GameDay.Cloud.Agent
import GameDay.Proofs.Cloud.Answers

namespace GameDay

namespace Target

variable {t : Target} {key value : String}

theorem get?_add (t : Target) (key value k : String) : (t.add key value).attributes.get? k =
    if key = k ∧ value ≠ "" then some ((t.attributes.get? key).getD [] ++ [value])
    else t.attributes.get? k := by
  unfold add
  split
  · rename_i empty
    simp [empty]
  · rename_i given
    simp [Dictionary.get?_insert, given]

structure Unplaced (t : Target) : Prop where
  account : t.attributes.get? accountKey = none
  region : t.attributes.get? regionKey = none

namespace Unplaced

theorem base (id label : String) (kind : TargetKind) : Unplaced { id, label, kind } := ⟨rfl, rfl⟩

theorem add (h : t.Unplaced) (differs : key ≠ accountKey ∧ key ≠ regionKey) (value : String) :
    (t.add key value).Unplaced := by
  constructor
  · rw [get?_add, if_neg (fun same => differs.1 same.1), h.account]
  · rw [get?_add, if_neg (fun same => differs.2 same.1), h.region]

theorem addOption (h : t.Unplaced) (differs : key ≠ accountKey ∧ key ≠ regionKey)
    (value : Option String) : (t.addOption key value).Unplaced := by
  cases value with
  | none => exact h
  | some value => exact h.add differs value

theorem foldl {α : Type} {f : Target → α → Target} (step : ∀ t a, Unplaced t → Unplaced (f t a))
    (as : List α) (h : t.Unplaced) : (as.foldl f t).Unplaced := by
  induction as generalizing t with
  | nil => exact h
  | cons a as ih => exact ih (step t a h)

end Unplaced

end Target

open Target (Unplaced accountKey regionKey)

def Access.Marked (x : Access) (t : Target) : Prop := ∃ bare : Target, bare.Unplaced ∧ t = x.stamp bare

namespace Access

variable {x : Access} {t : Target}

theorem Marked.account? (h : x.Marked t) :
    t.account? = if x.account = "" then none else some x.account := by
  obtain ⟨bare, unplaced, rfl⟩ := h
  have differ : regionKey ≠ accountKey := by decide
  unfold stamp Target.account? Target.attribute?
  rw [Target.get?_add, if_neg (fun same => differ same.1), Target.get?_add]
  split
  · rename_i given
    rw [if_neg given.2, unplaced.account]
    rfl
  · rename_i absent
    rw [unplaced.account, if_pos (by simpa using absent)]
    rfl

theorem Marked.region? (h : x.Marked t) :
    t.region? = if x.region = "" then none else some x.region := by
  obtain ⟨bare, unplaced, rfl⟩ := h
  have differ : accountKey ≠ regionKey := by decide
  have before : (bare.add accountKey x.account).attributes.get? regionKey = none := by
    rw [Target.get?_add, if_neg (fun same => differ same.1), unplaced.region]
  unfold stamp Target.region? Target.attribute?
  rw [Target.get?_add]
  split
  · rename_i given
    rw [if_neg given.2, before]
    rfl
  · rename_i absent
    rw [before, if_pos (by simpa using absent)]
    rfl

end Access

namespace Inventory

open Cloud (Findings Plan)

theorem unplaced_functionTarget (f : Cloud.Function) : (functionTarget f).Unplaced := by
  refine Unplaced.addOption (.addOption (.addOption (.foldl ?_ _ ?_) ?_ _) ?_ _) ?_ _
  · exact fun t a h => h.add (by decide) a
  · exact (((((((((Unplaced.base _ _ _).add (by decide) _).add (by decide) _).addOption (by decide) _)
      |>.addOption (by decide) _).addOption (by decide) _).add (by decide) _).addOption (by decide) _)
      |>.addOption (by decide) _).addOption (by decide) _
  all_goals decide

theorem unplaced_nodeGroupTarget (g : Cloud.ReplicationGroup) (n : Cloud.NodeGroup) :
    (nodeGroupTarget g n).Unplaced := by
  refine .foldl (fun t a h => h.addOption (by decide) a) _ ?_
  exact ((((((((((Unplaced.base _ _ _).addOption (by decide) _).add (by decide) _)
    |>.addOption (by decide) _).addOption (by decide) _).addOption (by decide) _)
    |>.addOption (by decide) _).addOption (by decide) _).addOption (by decide) _).add (by decide) _)
    |>.addOption (by decide) _

theorem append_ne {stem key : String} (h : ¬ stem.toList <+: key.toList) (name : String) :
    stem ++ name ≠ key := by
  rintro rfl
  apply h
  rw [String.toList_append]
  exact List.prefix_append _ _

theorem label_differs {stem : String}
    (h : ¬ stem.toList <+: accountKey.toList ∧ ¬ stem.toList <+: regionKey.toList) (name : String) :
    stem ++ name ≠ accountKey ∧ stem ++ name ≠ regionKey :=
  ⟨append_ne h.1 name, append_ne h.2 name⟩

theorem unplaced_addLabels {stem : String} {t : Target} (h : t.Unplaced)
    (differs : ∀ name, stem ++ name ≠ accountKey ∧ stem ++ name ≠ regionKey)
    (tags : Cloud.Tags) : (addLabels stem tags t).Unplaced :=
  .foldl (fun _ e h => h.add (differs _) e.2) _ h

theorem unplaced_brokerTarget? {c : Cloud.Cluster} {n : Cloud.ClusterNode} {t : Target}
    (h : brokerTarget? c n = some t) : t.Unplaced := by
  unfold brokerTarget? at h
  obtain ⟨broker, _, h⟩ := Option.bind_eq_some_iff.1 h
  obtain ⟨number, _, h⟩ := Option.bind_eq_some_iff.1 h
  cases h
  refine unplaced_addLabels ?_ (label_differs (by decide)) _
  refine .foldl (fun t a h => h.add (by decide) a) _ ?_
  exact (((((((Unplaced.base _ _ _).add (by decide) _).add (by decide) _).addOption (by decide) _)
    |>.add (by decide) _).addOption (by decide) _).addOption (by decide) _).addOption (by decide) _
    |>.addOption (by decide) _

theorem unplaced_templateTarget (t : Cloud.TemplateSummary) : (templateTarget t).Unplaced := by
  refine unplaced_addLabels ?_ (label_differs (by decide)) _
  exact (((Unplaced.base _ _ _).add (by decide) _).addOption (by decide) _).addOption (by decide) _

theorem unplaced_addDuration {t : Target} (h : t.Unplaced) (d : Duration) :
    (addDuration d t).Unplaced :=
  (h.add (by decide) _).add (by decide) _

inductive Described : TargetKind → Target → Prop
  | function (f : Cloud.Function) : Described .lambda (functionTarget f)
  | nodeGroup (g : Cloud.ReplicationGroup) (n : Cloud.NodeGroup) : Described .nodeGroup (nodeGroupTarget g n)
  | broker {c : Cloud.Cluster} {n : Cloud.ClusterNode} {t : Target} (made : brokerTarget? c n = some t) :
      Described .broker t
  | template (t : Cloud.TemplateSummary) : Described .template (templateTarget t)
  | estimated (t : Cloud.TemplateSummary) (d : Duration) :
      Described .template (addDuration d (templateTarget t))

theorem Described.unplaced {kind : TargetKind} {t : Target} (h : Described kind t) : t.Unplaced := by
  cases h with
  | function f => exact unplaced_functionTarget f
  | nodeGroup g n => exact unplaced_nodeGroupTarget g n
  | broker made => exact unplaced_brokerTarget? made
  | template t => exact unplaced_templateTarget t
  | estimated t d => exact unplaced_addDuration (unplaced_templateTarget t) d

theorem described_estimatedTarget (x : Access) (t : Cloud.TemplateSummary) :
    (estimatedTarget x t).Yields (Described .template) := by
  unfold estimatedTarget
  split
  · refine (Plan.Yields.trivial _).bind fun estimated _ => ?_
    cases estimated with
    | ok d => exact .done (.estimated t d)
    | error e => exact .done (.template t)
  · exact .done (.template t)

theorem described_clusterBrokers (limit : Nat) (x : Access) (c : Cloud.Cluster) :
    (clusterBrokers limit x c).Yields fun found =>
      ∀ kept ∈ found, ∀ t, kept = some t → ∃ bare, Described .broker bare ∧ t = x.stamp bare := by
  unfold clusterBrokers
  split
  · split
    · refine (Plan.Yields.trivial _).bind fun nodes _ => ?_
      rcases nodes with (e | _) | nodes
      · exact .done (by simp)
      · exact .done (by simp)
      · refine .done ?_
        rintro _ mem t rfl
        obtain ⟨bare, found, same⟩ := List.mem_map.1 mem
        cases same
        obtain ⟨n, _, made⟩ := List.mem_filterMap.1 found
        exact ⟨bare, .broker made, rfl⟩
    · exact .done (by simp)
  · exact .done (by simp)

theorem mem_of_settled {α : Type} {g : Cloud.Gathered (Option α)} {found : List α}
    (ok : settled g = .ok found) {a : α} (mem : a ∈ found) : some a ∈ g.found := by
  unfold settled at ok
  split at ok
  · obtain ⟨-, rfl⟩ := Cloud.Gathered.whole_eq_ok.1 ok
    simpa using mem
  · cases ok

theorem described_ofKind (limit : Nat) (kind : TargetKind) (x : Access) :
    (ofKind limit kind x).Yields fun r => ∀ found, r = .ok found →
      ∀ t ∈ found, ∃ bare, Described kind bare ∧ t = x.stamp bare := by
  cases kind with
  | lambda =>
    refine .pages (fun f => .done ?_) _ _ _
    exact List.forall_mem_singleton.2 ⟨_, .function f, rfl⟩
  | nodeGroup =>
    refine .pages (fun g => .done ?_) _ _ _
    intro t mem
    obtain ⟨bare, listed, rfl⟩ := List.mem_map.1 mem
    obtain ⟨n, _, rfl⟩ := List.mem_map.1 listed
    exact ⟨_, .nodeGroup g n, rfl⟩
  | broker =>
    refine (Plan.Yields.gather (described_clusterBrokers limit x) _ _ _).bind fun g listed => .done ?_
    intro found ok t mem
    exact listed _ (mem_of_settled ok mem) t rfl
  | template =>
    refine .pages (fun t => (described_estimatedTarget x t).bind fun bare described => .done ?_) _ _ _
    exact List.forall_mem_singleton.2 ⟨bare, described, rfl⟩

theorem marked_ofKind (limit : Nat) (kind : TargetKind) (x : Access) :
    (ofKind limit kind x).Yields fun r => ∀ found, r = .ok found → ∀ t ∈ found, x.Marked t := by
  refine (described_ofKind limit kind x).mono fun r described found ok t mem => ?_
  obtain ⟨bare, of, same⟩ := described found ok t mem
  exact ⟨bare, of.unplaced, same⟩

def Brings (accesses : List Access) (a : Access) (r : Except Cloud.Fault (List Target)) : Prop :=
  a ∈ accesses ∧ ∀ found, r = .ok found → ∀ t ∈ found, a.Marked t

variable {W : Type} (cloud : Cloud W) (size : Nat) (accesses : List Access)

def findings : List TargetKind → Cloud.Scene W → List (Access × List Target)
  | [], _ => []
  | kind :: kinds, s =>
    let (choices, world) := cloud.turns s.world
    let endings := Cloud.FanOut.endings cloud.perform size (seekers cloud accesses kind) choices
      { s with world }
    endings.map (fun e => (e.1, Cloud.FanOut.foundBy e.2)) ++
      findings kinds (everywhere cloud size accesses kind s).2

theorem discover_eq_findings {kinds : List TargetKind} {s s' : Cloud.Scene W} {targets : List Target}
    (found : discover cloud size accesses kinds s = (some targets, s')) :
    targets = (findings cloud size accesses kinds s).flatMap Prod.snd := by
  induction kinds generalizing s targets with
  | nil =>
    cases found
    rfl
  | cons kind kinds ih =>
    obtain ⟨first, s₁, more, here, rest, rfl⟩ := discover_cons_eq_some.1 found
    rw [findings, List.flatMap_append, List.flatMap_map, here, ih rest]
    obtain ⟨-, ran⟩ := everywhere_eq_some.1 here
    exact congrArg (· ++ _) ((congrArg Prod.fst ran).symm.trans (Cloud.FanOut.run_eq_endings _ _ _ _ _))

theorem marked_findings (kinds : List TargetKind) (s : Cloud.Scene W) :
    ∀ f ∈ findings cloud size accesses kinds s, f.1 ∈ accesses ∧ ∀ t ∈ f.2, f.1.Marked t := by
  induction kinds generalizing s with
  | nil => simp [findings]
  | cons kind kinds ih =>
    refine List.forall_mem_append.2 ⟨?_, ih _⟩
    intro f mem
    obtain ⟨e, ended, rfl⟩ := List.mem_map.1 mem
    have workers : ∀ w ∈ seekers cloud accesses kind, w.plan.Yields (Brings accesses w.access) := by
      intro w hw
      obtain ⟨a, ha, rfl⟩ := List.mem_map.1 hw
      exact (marked_ofKind _ _ _).mono fun r found => ⟨ha, found⟩
    obtain ⟨among, marked⟩ := Cloud.FanOut.kind_of_endings workers e ended
    refine ⟨among, ?_⟩
    intro t found
    unfold Cloud.FanOut.foundBy at found
    split at found
    · rename_i ts ok
      exact marked ts ok t found
    · cases found

end Inventory

end GameDay
