import GameDay.Proofs.Cloud.Expectations
import GameDay.Proofs.Inventory.Attributes
import Mathlib.Data.Multiset.AddSub

namespace GameDay

namespace Cloud

def Tags.Reordered (tags others : Tags) : Prop := tags.entries.Perm others.entries

theorem Tags.Reordered.get?_eq {tags others : Tags} (h : tags.Reordered others) (name : String) :
    tags.get? name = others.get? name := by
  refine Option.ext fun value => ?_
  unfold get?
  rw [KeyOrder.lookup_eq_some_iff tags.distinct, KeyOrder.lookup_eq_some_iff others.distinct]
  exact h.mem_iff

def Cluster.Reordered (c d : Cluster) : Prop := ∃ tags, c.tags.Reordered tags ∧ d = { c with tags }

def TemplateSummary.Reordered (t u : TemplateSummary) : Prop :=
  ∃ tags, t.tags.Reordered tags ∧ u = { t with tags }

namespace Request

def SameAnswer : (r : Request) → (answer other : Except ServiceError r.Answer) → Prop
  | .listClusters _ => SamePage Cluster.Reordered
  | .listTemplates _ => SamePage TemplateSummary.Reordered
  | _ => Eq

theorem SameAnswer.refl (r : Request) (answer : Except ServiceError r.Answer) :
    r.SameAnswer answer answer := by
  cases r with
  | listClusters => exact SamePage.refl (fun c => ⟨c.tags, .refl _, rfl⟩) answer
  | listTemplates => exact SamePage.refl (fun t => ⟨t.tags, .refl _, rfl⟩) answer
  | _ => rfl

end Request

end Cloud

namespace Target

def labelStems : List String := ["aws.msk.cluster.label.", "aws.fis.experiment.template.label."]

def IsLabel (key : String) : Prop := ∃ stem ∈ labelStems, stem.toList <+: key.toList

instance (key : String) : Decidable (IsLabel key) := inferInstanceAs (Decidable (∃ stem ∈ labelStems, _))

def valuesOf (t : Target) (key : String) : Option (Multiset String) :=
  (t.attributes.get? key).map (↑)

/-- The same target but for some of the attributes, and for the order of the values of labels. -/
structure SameBut (keys : List String) (t u : Target) : Prop where
  id : t.id = u.id
  label : t.label = u.label
  kind : t.kind = u.kind
  values : ∀ key ∉ keys, t.valuesOf key = u.valuesOf key
  others : ∀ key ∉ keys, ¬ IsLabel key → t.attributes.get? key = u.attributes.get? key

theorem id_add (t : Target) (key value : String) : (t.add key value).id = t.id ∧
    (t.add key value).label = t.label ∧ (t.add key value).kind = t.kind := by
  unfold add
  split <;> exact ⟨rfl, rfl, rfl⟩

theorem id_addOption (t : Target) (key : String) (value : Option String) :
    (t.addOption key value).id = t.id ∧ (t.addOption key value).kind = t.kind := by
  cases value with
  | none => exact ⟨rfl, rfl⟩
  | some value => exact ⟨(id_add t key value).1, (id_add t key value).2.2⟩

theorem valuesOf_add (t : Target) (key value k : String) : (t.add key value).valuesOf k =
    if key = k ∧ value ≠ "" then some ((t.valuesOf key).getD 0 + {value}) else t.valuesOf k := by
  unfold valuesOf
  rw [get?_add]
  split
  · cases t.attributes.get? key <;> rfl
  · rfl

namespace SameBut

variable {keys more : List String} {t u v : Target}

theorem refl (keys : List String) (t : Target) : t.SameBut keys t :=
  ⟨rfl, rfl, rfl, fun _ _ => rfl, fun _ _ _ => rfl⟩

theorem symm (h : t.SameBut keys u) : u.SameBut keys t :=
  ⟨h.id.symm, h.label.symm, h.kind.symm, fun key other => (h.values key other).symm,
    fun key other no => (h.others key other no).symm⟩

theorem trans (h : t.SameBut keys u) (h' : u.SameBut keys v) : t.SameBut keys v :=
  ⟨h.id.trans h'.id, h.label.trans h'.label, h.kind.trans h'.kind,
    fun key other => (h.values key other).trans (h'.values key other),
    fun key other no => (h.others key other no).trans (h'.others key other no)⟩

theorem mono (h : t.SameBut keys u) (le : keys ⊆ more) : t.SameBut more u :=
  { h with
    values := fun key other => h.values key fun mem => other (le mem)
    others := fun key other => h.others key fun mem => other (le mem) }

theorem add_left {key : String} (mem : key ∈ keys) (value : String) :
    (t.add key value).SameBut keys t := by
  obtain ⟨id, label, kind⟩ := id_add t key value
  have apart (other : String) (absent : other ∉ keys) : ¬ (key = other ∧ value ≠ "") := by
    rintro ⟨rfl, _⟩
    exact absent mem
  refine ⟨id, label, kind, fun other absent => ?_, fun other absent _ => ?_⟩
  · rw [valuesOf_add, if_neg (apart other absent)]
  · rw [get?_add, if_neg (apart other absent)]

theorem add (h : t.SameBut keys u) {key : String} (other : key ∉ keys) (value : String) :
    (t.add key value).SameBut keys (u.add key value) := by
  obtain ⟨id, label, kind⟩ := id_add t key value
  obtain ⟨id', label', kind'⟩ := id_add u key value
  refine ⟨by rw [id, id', h.id], by rw [label, label', h.label], by rw [kind, kind', h.kind], ?_, ?_⟩
  · intro k absent
    rw [valuesOf_add, valuesOf_add, h.values key other, h.values k absent]
  · intro k absent no
    rw [get?_add, get?_add, h.others k absent no]
    by_cases same : key = k
    · subst same
      rw [h.others key other no]
    · rw [if_neg (fun both => same both.1), if_neg (fun both => same both.1)]

theorem stamp (h : t.SameBut keys u) (account : accountKey ∉ keys) (region : regionKey ∉ keys)
    (A : Access) : (A.stamp t).SameBut keys (A.stamp u) :=
  (h.add account A.account).add region A.region

end SameBut

def SameTargets (ts us : List Target) : Prop := List.Forall₂ (SameBut []) ts us

theorem SameTargets.values_eq {ts us : List Target} (h : SameTargets ts us) {key : String}
    (no : ¬ IsLabel key) : ts.map (·.attributes.get? key) = us.map (·.attributes.get? key) := by
  induction h with
  | nil => rfl
  | cons here _ ih => rw [List.map_cons, List.map_cons, here.others key List.not_mem_nil no, ih]

end Target

namespace Inventory

open Target

section Labels

variable {stem : String} {tags others : Cloud.Tags} {t : Target}

def labels (stem : String) (tags : Cloud.Tags) : List Addition :=
  tags.entries.map fun e => .always (stem ++ Text.lowercase e.1) e.2

theorem addLabels_eq_complete (stem : String) (tags : Cloud.Tags) (t : Target) :
    addLabels stem tags t = t.complete (labels stem tags) := by
  rw [complete, labels, List.foldl_map]
  rfl

theorem perm_given_labels (h : tags.Reordered others) (key : String) :
    (given key (labels stem tags)).Perm (given key (labels stem others)) :=
  (((h.map _).filter _).filterMap _).filter _

theorem given_labels_eq_nil {key : String} (mem : stem ∈ labelStems) (no : ¬ IsLabel key) :
    given key (labels stem tags) = [] := by
  have apart : (labels stem tags).filter (·.key = key) = [] := by
    refine List.filter_eq_nil_iff.2 fun a ha same => no ?_
    obtain ⟨e, _, rfl⟩ := List.mem_map.1 ha
    obtain rfl := of_decide_eq_true same
    refine ⟨stem, mem, ?_⟩
    rw [Addition.key, String.toList_append]
    exact List.prefix_append _ _
  rw [given, apart]
  rfl

theorem id_addLabels (stem : String) (tags : Cloud.Tags) (t : Target) :
    (addLabels stem tags t).id = t.id ∧ (addLabels stem tags t).label = t.label ∧
      (addLabels stem tags t).kind = t.kind := by
  unfold addLabels
  induction tags.entries generalizing t with
  | nil => exact ⟨rfl, rfl, rfl⟩
  | cons e entries ih =>
    obtain ⟨id, label, kind⟩ := id_add t (stem ++ Text.lowercase e.1) e.2
    obtain ⟨ids, labels, kinds⟩ := ih (t.add (stem ++ Text.lowercase e.1) e.2)
    exact ⟨ids.trans id, labels.trans label, kinds.trans kind⟩

theorem sameBut_addLabels (mem : stem ∈ labelStems) (h : tags.Reordered others) (t : Target) :
    (addLabels stem tags t).SameBut [] (addLabels stem others t) := by
  obtain ⟨id, label, kind⟩ := id_addLabels stem tags t
  obtain ⟨id', label', kind'⟩ := id_addLabels stem others t
  refine ⟨by rw [id, id'], by rw [label, label'], by rw [kind, kind'], fun key _ => ?_,
    fun key _ no => ?_⟩
  · have perm : (given key (labels stem tags)).Perm (given key (labels stem others)) :=
      perm_given_labels h key
    have empty : given key (labels stem tags) = [] ↔ given key (labels stem others) = [] := by
      rw [← List.perm_nil, ← List.perm_nil]
      exact perm.congr_left []
    unfold valuesOf
    rw [addLabels_eq_complete, addLabels_eq_complete, get?_complete, get?_complete]
    simp only [empty]
    split
    · rfl
    · exact congrArg some (Multiset.coe_eq_coe.2 (perm.append_left _))
  · rw [addLabels_eq_complete, addLabels_eq_complete, get?_complete, get?_complete,
      given_labels_eq_nil mem no, given_labels_eq_nil mem no]

end Labels

theorem rel_brokerTarget? {c d : Cloud.Cluster} (h : c.Reordered d) (n : Cloud.ClusterNode) :
    Option.Rel (SameBut []) (brokerTarget? c n) (brokerTarget? d n) := by
  obtain ⟨tags, reordered, rfl⟩ := h
  unfold brokerTarget?
  cases n.broker with
  | none => exact .none
  | some broker =>
    simp only [Option.bind_eq_bind, Option.bind_some]
    cases broker.id with
    | none => exact .none
    | some number => exact .some (sameBut_addLabels (by decide) reordered _)

theorem sameBut_templateTarget {t u : Cloud.TemplateSummary} (h : t.Reordered u) :
    (templateTarget t).SameBut [] (templateTarget u) := by
  obtain ⟨tags, reordered, rfl⟩ := h
  unfold templateTarget
  rw [reordered.get?_eq nameTag]
  exact sameBut_addLabels (by decide) reordered _

theorem id_templateTarget (t : Cloud.TemplateSummary) :
    (templateTarget t).id = t.id.getD "" ∧ (templateTarget t).kind = .template := by
  unfold templateTarget
  simp only [id_addLabels, id_addOption, id_add, and_self]

end Inventory

end GameDay
