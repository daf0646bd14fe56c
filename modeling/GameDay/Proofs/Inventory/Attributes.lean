import GameDay.Proofs.Experiment.Selection
import GameDay.Proofs.Inventory.Places

namespace GameDay.Target

inductive Addition
  | always (key value : String)
  | perhaps (key : String) (value : Option String)

namespace Addition

def key : Addition → String
  | always key _ => key
  | perhaps key _ => key

def value? : Addition → Option String
  | always _ value => some value
  | perhaps _ value => value

def perform (t : Target) : Addition → Target
  | always key value => t.add key value
  | perhaps key value => t.addOption key value

end Addition

def complete (t : Target) (additions : List Addition) : Target := additions.foldl Addition.perform t

def given (key : String) (additions : List Addition) : List String :=
  ((additions.filter (·.key = key)).filterMap Addition.value?).filter (· ≠ "")

section Additions

variable {t : Target} {key value : String} {values : List String} {additions : List Addition}

theorem ne_empty_of_given (mem : value ∈ given key additions) : value ≠ "" := by
  simpa using (List.mem_filter.1 mem).2

theorem given_cons (a : Addition) (additions : List Addition) :
    given key (a :: additions) = given key [a] ++ given key additions := by
  simp only [given, ← List.filter_append, ← List.filterMap_append, List.singleton_append]

theorem get?_perform (t : Target) (a : Addition) (key : String) : (a.perform t).attributes.get? key =
    if given key [a] = [] then t.attributes.get? key
    else some ((t.attributes.get? key).getD [] ++ given key [a]) := by
  have perform : a.perform t = t.addOption a.key a.value? := by cases a <;> rfl
  rw [perform]
  by_cases own : a.key = key
  · cases told : a.value? with
    | none => simp [addOption, given, own, told]
    | some value => by_cases empty : value = "" <;> simp [addOption, get?_add, given, own, told, empty]
  · cases a.value? with
    | none => simp [addOption, given, own]
    | some value => simp [addOption, get?_add, given, own]

theorem get?_complete (t : Target) (additions : List Addition) (key : String) :
    (t.complete additions).attributes.get? key = if given key additions = [] then t.attributes.get? key
      else some ((t.attributes.get? key).getD [] ++ given key additions) := by
  induction additions generalizing t with
  | nil => rfl
  | cons a additions ih =>
    change ((a.perform t).complete additions).attributes.get? key = _
    rw [ih, get?_perform, given_cons a additions]
    by_cases first : given key [a] = [] <;> by_cases rest : given key additions = [] <;> simp [first, rest]

theorem attribute?_complete (first : t.attribute? key = some value) (additions : List Addition) :
    (t.complete additions).attribute? key = some value := by
  unfold attribute? at first ⊢
  cases found : t.attributes.get? key with
  | none => simp [found] at first
  | some values =>
    cases values with
    | nil => simp [found] at first
    | cons v values =>
      rw [get?_complete]
      split
      · exact first
      · simpa [found] using first

end Additions

/-- An attribute of a new target has the values that were given for it and are not empty, in their order, and
there is none without a value. Its first value is the first one given and stays so, and no selector finds a target
by an empty value. -/
theorem attributes_as_given (kind : TargetKind) (id label : String) (additions : List Addition) (key : String) :
    let t := complete { id, label, kind } additions
    t.attributes.get? key = (if given key additions = [] then none else some (given key additions)) ∧
    ((t.attributes.get? key).isSome ↔ given key additions ≠ []) ∧
    (∀ values, t.attributes.get? key = some values → values ≠ [] ∧ ∀ value ∈ values, value ≠ "") ∧
    t.attribute? key = (given key additions).head? ∧
    (∀ value, t.attribute? key = some value → ∀ later, (t.complete later).attribute? key = some value) ∧
    (key ≠ Selector.idKey → ∀ s : Selector, s.attributes.get? key = some "" → s.admits t = false) := by
  intro t
  have stored : t.attributes.get? key =
      if given key additions = [] then none else some (given key additions) := get?_complete _ additions key
  have lists (values : List String) (found : t.attributes.get? key = some values) :
      values ≠ [] ∧ ∀ value ∈ values, value ≠ "" := by
    rw [stored] at found
    split at found
    · cases found
    · rename_i some
      cases found
      exact ⟨some, fun _ mem => ne_empty_of_given mem⟩
  refine ⟨stored, ?_, lists, ?_, fun _ first later => attribute?_complete first later, fun other s asked => ?_⟩
  · rw [stored]
    split <;> simp [*]
  · rw [attribute?, stored]
    split <;> simp [*]
  · rw [Bool.eq_false_iff]
    intro admitted
    obtain ⟨values, found, mem⟩ := ((s.admits_iff t).1 admitted).attributes key "" other asked
    exact (lists values found).2 "" mem rfl

def tellings : List Addition :=
  [.perhaps regionKey none, .always regionKey "", .always regionKey "eu-west-1", .always accountKey "1",
    .perhaps regionKey (some "us-east-1")]

def nowhere : Selector := { kind := .lambda, attributes := .ofList [(regionKey, "")] }

theorem tellings_as_given : given regionKey tellings = ["eu-west-1", "us-east-1"] ∧
    let t := complete { id := "arn", label := "fn", kind := .lambda } tellings
    t.attributes.get? regionKey = some ["eu-west-1", "us-east-1"] ∧
    (∀ later, (t.complete later).attribute? regionKey = some "eu-west-1") ∧
    regionKey ≠ Selector.idKey ∧ nowhere.attributes.get? regionKey = some "" ∧ nowhere.admits t = false := by
  have told : given regionKey tellings = ["eu-west-1", "us-east-1"] := by decide
  have other : regionKey ≠ Selector.idKey := by decide
  have asked : nowhere.attributes.get? regionKey = some "" := by decide
  obtain ⟨stored, -, -, first, stays, unmatched⟩ := attributes_as_given .lambda "arn" "fn" tellings regionKey
  rw [told] at stored first
  exact ⟨told, stored, stays _ first, other, asked, unmatched other nowhere asked⟩

end GameDay.Target
