import GameDay.Inventory.Basic
import GameDay.Proofs.Cloud.Plans
import GameDay.Proofs.Disruption.Requests

namespace GameDay

def Cloud.Request.IsListing : Cloud.Request → Prop
  | listFunctions _ | describeReplicationGroups _ none | listClusters _ | listNodes .. |
    listTemplates _ | getTemplate _ => True
  | _ => False

namespace Inventory

open Cloud (Effect Plan)

def Lists (a : Access) : Effect → Prop :=
  Effect.Sends fun sender request => sender = a ∧ request.IsListing

section

variable {allowed : Effect → Prop} (limit : Nat) {a : Access}

theorem within_clusterBrokers (nodes : ∀ cluster token, allowed (.send a (.listNodes cluster token)))
    (c : Cloud.Cluster) : (clusterBrokers limit a c).Within allowed := by
  unfold clusterBrokers
  split
  · split
    · refine Plan.Within.bind (.pages (fun _ => .effect (nodes _ _)) (fun _ => .pure _) _ _ _) ?_
      intro nodes
      rcases nodes with (e | _) | nodes <;> exact .pure _
    · exact .pure _
  · exact .pure _

theorem within_fetchActions (fetch : ∀ template, allowed (.send a (.getTemplate template)))
    (template : String) : (fetchActions a template).Within allowed := by
  refine Plan.Within.bind (.effect (fetch template)) ?_
  intro answer
  split <;> exact .pure _

variable (looks : ∀ template, allowed (.lookUp template))
  (records : ∀ template d, allowed (.record template d))
include looks records

theorem within_estimate {ε : Type} {fetch : Plan (Except ε Fis.TemplateActions)}
    (h : fetch.Within allowed) (template : String) (lastUpdate : Timestamp) :
    (estimate fetch template lastUpdate).Within allowed := by
  refine Plan.Within.bind (.effect (looks template)) ?_
  intro known
  split
  · exact .pure _
  · refine h.bind ?_
    intro fetched
    cases fetched with
    | error e => exact .pure _
    | ok actions => exact Plan.Within.bind (.effect (records _ _)) fun _ => .pure _

theorem within_estimatedTarget (fetch : ∀ template, allowed (.send a (.getTemplate template)))
    (t : Cloud.TemplateSummary) : (estimatedTarget a t).Within allowed := by
  unfold estimatedTarget
  split
  · refine (within_estimate looks records (within_fetchActions fetch _) _ _).bind ?_
    intro estimated
    cases estimated <;> exact .pure _
  · exact .pure _

theorem within_ofKind {kind : TargetKind}
    (sends : ∀ request, request.IsListing → request.kind = kind → allowed (.send a request)) :
    (ofKind limit kind a).Within allowed := by
  cases kind with
  | lambda =>
    exact .pages (fun _ => .effect (sends (.listFunctions _) trivial rfl)) (fun _ => .pure _) _ _ _
  | nodeGroup =>
    exact .pages (fun _ => .effect (sends (.describeReplicationGroups _ none) trivial rfl))
      (fun _ => .pure _) _ _ _
  | broker =>
    refine (Plan.Within.gather (fun _ => .effect (sends (.listClusters _) trivial rfl)) ?_ _ _ _).bind
      fun _ => .pure _
    exact within_clusterBrokers limit fun _ _ => sends (.listNodes ..) trivial rfl
  | template =>
    refine .pages (fun _ => .effect (sends (.listTemplates _) trivial rfl)) (fun t => ?_) _ _ _
    refine (within_estimatedTarget looks records ?_ t).bind fun _ => .pure _
    exact fun _ => sends (.getTemplate _) trivial rfl

end

variable (limit : Nat) (a : Access) (kind : TargetKind)

theorem lists_ofKind : (ofKind limit kind a).Within (Lists a) :=
  within_ofKind limit (fun _ => trivial) (fun _ _ => trivial) fun _ listing _ => ⟨rfl, listing⟩

theorem seeks_ofKind : (ofKind limit kind a).Within
    (Effect.Sends fun sender request => sender = a ∧ request.kind = kind) :=
  within_ofKind limit (fun _ => trivial) (fun _ _ => trivial) fun _ _ same => ⟨rfl, same⟩

end Inventory

end GameDay
