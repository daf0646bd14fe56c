import GameDay.Disruption.Catalogue
import GameDay.Proofs.Cloud.Plans

namespace GameDay

def Cloud.Request.kind : Cloud.Request → TargetKind
  | listFunctions _ | getParameter _ | putParameter .. | deleteParameter _ => .lambda
  | describeReplicationGroups .. | testFailover .. => .nodeGroup
  | listClusters _ | listNodes .. | rebootBroker .. | describeClusterOperation _ => .broker
  | listTemplates _ | getTemplate _ | startExperiment .. | getExperiment _ | stopExperiment _ => .template

namespace Disruption

open Cloud (Action Effect Plan)

/-- All requests are about targets of a kind, and go through the access of a context. -/
def Reaches (ctx : Context Connection) (kind : TargetKind) : Effect → Prop :=
  Effect.Sends fun a request => accessOf ctx = .ok a ∧ request.kind = kind

variable {ctx : Context Connection} {kind : TargetKind} {α : Type}

theorem reaches_accessOf {f : Access → Action α}
    (h : ∀ a, accessOf ctx = .ok a → (f a).run.Within (Reaches ctx kind)) :
    (liftM (accessOf ctx) >>= f : Action α).run.Within (Reaches ctx kind) :=
  .action_except_bind h

theorem sends_started {kind : Access → Cloud.Request → Prop} (skill : String) (t : Target)
    (undo : Yaml.Value) : (started skill t undo).run.Within (Effect.Sends kind) :=
  .action_bind (.action_plan (.effect trivial)) fun _ =>
    .action_bind (.action_plan (.effect trivial)) fun _ => .pure _

section injection

variable {a : Access} (access : accessOf ctx = .ok a)
include access

theorem reaches_currentValue (parameter : String) :
    (currentValue a parameter).run.Within (Reaches ctx .lambda) := by
  refine .action_bind (.action_plan (.effect ⟨access, rfl⟩)) fun answer => ?_
  cases answer with
  | ok value => exact .pure _
  | error e =>
    simp only
    split <;> exact .pure _

theorem reaches_setValue (parameter value : String) :
    (setValue a parameter value).run.Within (Reaches ctx .lambda) :=
  .action_send ⟨access, rfl⟩

theorem reaches_removeValue (parameter : String) :
    (removeValue a parameter).run.Within (Reaches ctx .lambda) := by
  refine .action_bind (.action_plan (.effect ⟨access, rfl⟩)) fun answer => ?_
  cases answer with
  | ok _ => exact .pure _
  | error e =>
    simp only
    split <;> exact .pure _

end injection

variable (ctx : Context Connection) (h : Handle)

theorem reaches_inject : (inject ctx).run.Within (Reaches ctx .lambda) := by
  refine .action_bind (.action_except _) fun settings => ?_
  refine reaches_accessOf fun a access => ?_
  exact .action_bind (.action_except _) fun parameter =>
    .action_bind (reaches_currentValue access _) fun previous =>
      .action_bind (reaches_setValue access _ _) fun _ => sends_started _ _ _

theorem reaches_restore : (restore ctx h).run.Within (Reaches ctx .lambda) := by
  refine .action_bind (.action_except _) fun injected => ?_
  refine reaches_accessOf fun a access => ?_
  split
  · exact reaches_setValue access _ _
  · exact reaches_removeValue access _

theorem reaches_failOver : (failOver ctx).run.Within (Reaches ctx .nodeGroup) := by
  refine reaches_accessOf fun a access => ?_
  exact .action_bind (.action_except _) fun group => .action_bind (.action_except _) fun nodeGroup =>
    .action_bind (.action_send ⟨access, rfl⟩) fun _ => sends_started _ _ _

theorem reaches_failoverProgress : (failoverProgress ctx h).run.Within (Reaches ctx .nodeGroup) := by
  refine .action_bind (.action_plan (.effect trivial)) fun now => ?_
  split
  · exact .pure _
  · refine .action_bind (.action_except _) fun f => ?_
    refine reaches_accessOf fun a access => ?_
    refine .action_bind (.action_send ⟨access, rfl⟩) fun page => ?_
    split <;> exact .pure _

theorem reaches_rebootBroker : (rebootBroker ctx).run.Within (Reaches ctx .broker) := by
  refine reaches_accessOf fun a access => ?_
  refine .action_bind (.action_except _) fun cluster => .action_bind (.action_except _) fun broker =>
    .action_bind (.action_send ⟨access, rfl⟩) fun operation => ?_
  cases operation with
  | some operation => exact sends_started _ _ _
  | none => exact .pure _

theorem reaches_rebootProgress : (rebootProgress ctx h).run.Within (Reaches ctx .broker) := by
  refine .action_bind (.action_except _) fun r => ?_
  refine reaches_accessOf fun a access => ?_
  exact .action_bind (.action_send ⟨access, rfl⟩) fun _ => .pure _

theorem reaches_startTemplate : (startTemplate ctx).run.Within (Reaches ctx .template) := by
  refine reaches_accessOf fun a access => ?_
  refine .action_bind (.action_except _) fun template =>
    .action_bind (.action_plan (.effect trivial)) fun token =>
      .action_bind (.action_send ⟨access, rfl⟩) fun experiment => ?_
  cases experiment with
  | some experiment => exact sends_started _ _ _
  | none => exact .pure _

theorem reaches_templateProgress : (templateProgress ctx h).run.Within (Reaches ctx .template) := by
  refine .action_bind (.action_except _) fun r => ?_
  refine reaches_accessOf fun a access => ?_
  exact .action_bind (.action_send ⟨access, rfl⟩) fun _ => .pure _

theorem reaches_stopTemplate : (stopTemplate ctx h).run.Within (Reaches ctx .template) := by
  refine .action_bind (.action_except _) fun r => ?_
  refine reaches_accessOf fun a access => ?_
  refine .action_bind (.action_send ⟨access, rfl⟩) fun state => ?_
  split
  · exact .pure _
  · exact .action_send ⟨access, rfl⟩

variable {d : Disruption} (known : d ∈ all)
include known

theorem eq_of_name {d' : Disruption} (known' : d' ∈ all)
    (named : d.descriptor.name = d'.descriptor.name) : d = d' := by
  simp only [all, List.mem_cons, List.not_mem_nil, or_false] at known known'
  rcases known with rfl | rfl | rfl | rfl <;> rcases known' with rfl | rfl | rfl | rfl <;>
    first | rfl | exact absurd named (by decide)

theorem eq_of_kind {d' : Disruption} (known' : d' ∈ all)
    (kind : d.descriptor.kind = d'.descriptor.kind) : d = d' := by
  simp only [all, List.mem_cons, List.not_mem_nil, or_false] at known known'
  rcases known with rfl | rfl | rfl | rfl <;> rcases known' with rfl | rfl | rfl | rfl <;>
    first | rfl | exact absurd kind (by decide)

theorem kind_ne_of_name_ne {d' : Disruption} (known' : d' ∈ all)
    (other : d.descriptor.name ≠ d'.descriptor.name) : d.descriptor.kind ≠ d'.descriptor.kind :=
  fun kind => other (by rw [eq_of_kind known known' kind])

theorem reaches_execute : (d.execute ctx).run.Within (Reaches ctx d.descriptor.kind) := by
  simp only [all, List.mem_cons, List.not_mem_nil, or_false] at known
  rcases known with rfl | rfl | rfl | rfl
  · exact reaches_inject ctx
  · exact reaches_failOver ctx
  · exact reaches_rebootBroker ctx
  · exact reaches_startTemplate ctx

theorem reaches_status : (d.status ctx h).run.Within (Reaches ctx d.descriptor.kind) := by
  simp only [all, List.mem_cons, List.not_mem_nil, or_false] at known
  rcases known with rfl | rfl | rfl | rfl
  · exact .pure _
  · exact reaches_failoverProgress ctx h
  · exact reaches_rebootProgress ctx h
  · exact reaches_templateProgress ctx h

theorem reaches_rollback : (d.rollback ctx h).run.Within (Reaches ctx d.descriptor.kind) := by
  simp only [all, List.mem_cons, List.not_mem_nil, or_false] at known
  rcases known with rfl | rfl | rfl | rfl
  · exact reaches_restore ctx h
  · exact .pure _
  · exact .pure _
  · exact reaches_stopTemplate ctx h

end Disruption

end GameDay
