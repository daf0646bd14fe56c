import GameDay.Decode.OfValue
import Mathlib.Data.List.Forall2

namespace GameDay.Decode

open Yaml (Value)

namespace OfValue

def entriesOf (v : Value) : List (Value × Value) :=
  match v.untagged with
  | .mapping entries => entries
  | _ => []

def name? (key : Value) : Option String :=
  match key.untagged with
  | .text s => some s
  | _ => none

def under (v : Value) (name : String) : List Value :=
  ((entriesOf v).filter fun e => name? e.1 = some name).map Prod.snd

end OfValue

open OfValue

variable {α β : Type}

def Reading.Gives (x : Reading α) (a : α) : Prop := ∃ n n', x n = .ok (a, n')

def Fields.Give (fields : Fields Value α) (v : Value) (a : α) : Prop :=
  ∃ entries : List (Entry Value), (∀ name, (entries.filter (·.key = name)).map Entry.value = under v name) ∧
    ∃ n n', fields.read entries n = (⟨none, .ok a⟩, n')

section Readings

theorem bind_ok {x : Reading α} {f : α → Reading β} {n n' : Nat} {b : β} (h : (x >>= f) n = .ok (b, n')) :
    ∃ a n₁, x n = .ok (a, n₁) ∧ f a n₁ = .ok (b, n') := by
  change (x n >>= fun p => f p.1 p.2) = _ at h
  cases read : x n with
  | error e =>
    rw [read] at h
    cases h
  | ok p =>
    rw [read] at h
    exact ⟨p.1, p.2, rfl, h⟩

theorem Reading.Gives.pure_eq {a b : α} (h : Reading.Gives (pure a) b) : b = a := by
  obtain ⟨n, n', h⟩ := h
  cases h
  rfl

theorem Reading.Gives.bind {x : Reading α} {f : α → Reading β} {b : β} (h : Reading.Gives (x >>= f) b) :
    ∃ a, x.Gives a ∧ (f a).Gives b := by
  obtain ⟨n, n', h⟩ := h
  obtain ⟨a, n₁, first, second⟩ := bind_ok h
  exact ⟨a, ⟨n, n₁, first⟩, n₁, n', second⟩

theorem not_gives_throw {e : DecodeError} {a : α} : ¬ Reading.Gives (throw e) a := by
  rintro ⟨n, n', h⟩
  cases h

theorem gives_of_read {reader : Reader Value α} {w : Value} {a : α} (h : reader.read w = .ok a) :
    (reader w).Gives a := by
  change (reader w 0).map Prod.fst = .ok a at h
  cases read : reader w 0 with
  | error e =>
    rw [read] at h
    cases h
  | ok p =>
    rw [read] at h
    cases h
    exact ⟨0, p.2, read⟩

variable {w : Value}

theorem untagged_of_text {expected s : String} (h : (Source.text expected w).Gives s) :
    w.untagged = .text s := by
  simp only [Source.text] at h
  split at h
  · rename_i found
    rw [found, h.pure_eq]
  · cases not_gives_throw h

theorem untagged_of_natural {range : IntegerRange} {k : Nat} (h : (natural range w).Gives k) :
    w.untagged = .number (.integer k) := by
  unfold natural at h
  split at h
  · rename_i n found
    unfold IntegerRange.member? at h
    split at h
    · rename_i inside
      have read : k = n.toNat := h.pure_eq
      rw [found, read, Int.toNat_of_nonneg inside.1]
    · cases not_gives_throw h
  · cases not_gives_throw h

theorem gives_real {x : Binary64} (h : (real w).Gives x) :
    w.untagged = .number (.real x) ∨ ∃ n, w.untagged = .number (.integer n) ∧ x = .ofInt n := by
  unfold real at h
  split at h
  · rename_i n found
    exact .inr ⟨n, found, h.pure_eq⟩
  · rename_i y found
    rw [h.pure_eq]
    exact .inl found
  · cases not_gives_throw h

theorem Reading.Gives.known {names : List String} {a name : String} {e : DecodeError}
    (h : Reading.Gives (if a ∈ names then pure a else throw e) name) : name = a ∧ a ∈ names := by
  split at h
  · rename_i known
    exact ⟨h.pure_eq, known⟩
  · cases not_gives_throw h

theorem gives_variant {names : List String} {name : String} (h : (variant names w).Gives name) :
    name ∈ names ∧ (w = .text name ∨ w = .tagged name .null) := by
  cases w with
  | text s =>
    obtain ⟨rfl, known⟩ : name = s ∧ s ∈ names := h.known
    exact ⟨known, .inl rfl⟩
  | tagged kind content =>
    obtain ⟨kind', first, rest⟩ := h.bind
    obtain ⟨rfl, known⟩ : kind' = kind ∧ kind ∈ names := first.known
    cases content with
    | null =>
      rw [rest.pure_eq]
      exact ⟨known, .inr rfl⟩
    | tagged => cases not_gives_throw rest
    | boolean | number | text | sequence | mapping => cases not_gives_throw rest
  | null | boolean | number | sequence | mapping => cases not_gives_throw h

theorem gives_option {reader : Reader Value α} {o : Option α} (h : (option reader w).Gives o) :
    (w = .null ∧ o = none) ∨ ∃ a, o = some a ∧ (reader w).Gives a := by
  unfold option at h
  split at h
  · exact .inl ⟨rfl, h.pure_eq⟩
  · rw [map_eq_pure_bind] at h
    obtain ⟨a, read, h⟩ := h.bind
    exact .inr ⟨a, h.pure_eq, read⟩

theorem gives_mapM {reader : Reader Value α} {items : List Value} {as : List α}
    (h : (items.mapM reader).Gives as) : List.Forall₂ (fun item a => (reader item).Gives a) items as := by
  induction items generalizing as with
  | nil =>
    rw [List.mapM_nil] at h
    rw [h.pure_eq]
    exact .nil
  | cons item items ih =>
    rw [List.mapM_cons] at h
    obtain ⟨a, first, h⟩ := h.bind
    obtain ⟨as, rest, h⟩ := h.bind
    rw [h.pure_eq]
    exact .cons first (ih rest)

theorem gives_listOf {reader : Reader Value α} {as : List α} (h : (listOf reader w).Gives as) :
    (w.untagged = .null ∧ as = []) ∨
      ∃ items, w.untagged = .sequence items ∧ List.Forall₂ (fun item a => (reader item).Gives a) items as := by
  obtain ⟨items, found, h⟩ := h.bind
  simp only [Source.items] at found
  split at found
  · rename_i inside
    rw [found.pure_eq] at h
    exact .inr ⟨_, inside, gives_mapM h⟩
  · rename_i null
    rw [found.pure_eq] at h
    cases gives_mapM h
    exact .inl ⟨null, rfl⟩
  · cases not_gives_throw found

end Readings

section Records

variable {v : Value}

theorem earlier_none {a b : Option (Nat × DecodeError)} (h : earlier a b = none) : a = none ∧ b = none := by
  cases a <;> cases b <;> first | exact ⟨rfl, rfl⟩ | cases h

theorem Fields.Give.seq {f : Fields Value (α → β)} {g : Fields Value α} {b : β} (h : (f <*> g).Give v b) :
    ∃ k a, f.Give v k ∧ g.Give v a ∧ b = k a := by
  obtain ⟨entries, all, n, n', h⟩ := h
  have both : (f <*> g).read entries n =
      (⟨earlier (f.read entries n).1.failure (g.read entries (f.read entries n).2).1.failure,
        (f.read entries n).1.result <*> (g.read entries (f.read entries n).2).1.result⟩,
        (g.read entries (f.read entries n).2).2) := rfl
  rw [both] at h
  rcases hf : f.read entries n with ⟨⟨first, k⟩, n₁⟩
  rw [hf] at h
  rcases hg : g.read entries n₁ with ⟨⟨second, a⟩, n₂⟩
  rw [hg] at h
  have failure : earlier first second = none := congrArg (fun r => r.1.failure) h
  have result : k <*> a = .ok b := congrArg (fun r => r.1.result) h
  obtain ⟨rfl, rfl⟩ := earlier_none failure
  cases k with
  | error e => cases result
  | ok k =>
    cases a with
    | error e => cases result
    | ok a =>
      cases result
      exact ⟨k, a, ⟨entries, all, n, n₁, hf⟩, ⟨entries, all, n₁, n₂, hg⟩, rfl⟩

theorem Fields.Give.map {g : Fields Value α} {k : α → β} {b : β} (h : (k <$> g).Give v b) :
    ∃ a, g.Give v a ∧ b = k a := by
  obtain ⟨k', a, pure, given, rfl⟩ := Fields.Give.seq (f := pure k) h
  obtain ⟨entries, all, n, n', h⟩ := pure
  cases h
  exact ⟨a, given, rfl⟩

theorem Fields.Give.field {name : String} {reader : Reader Value α} {absent : Outcome α} {a : α}
    (h : (Fields.field name reader absent).Give v a) :
    (under v name = [] ∧ absent = ⟨none, .ok a⟩) ∨ ∃ w, under v name = [w] ∧ (reader w).Gives a := by
  obtain ⟨entries, all, n, n', h⟩ := h
  rw [← all name]
  simp only [Fields.field] at h
  split at h
  · rename_i none
    cases h
    exact .inl ⟨by rw [none]; rfl, rfl⟩
  · rename_i e again some
    split at h
    · cases h
    · rename_i b n₁ read
      split at h
      · cases h
        exact .inr ⟨e.value, by rw [some]; rfl, n, n', read⟩
      · cases h

theorem Fields.Give.required {name : String} {reader : Reader Value α} {a : α}
    (h : (Fields.required name reader).Give v a) : ∃ w, under v name = [w] ∧ (reader w).Gives a := by
  obtain ⟨-, none⟩ | given := h.field
  · cases none
  · exact given

theorem Fields.Give.optional {name : String} {reader : Reader Value α} {default a : α}
    (h : (Fields.optional name reader default).Give v a) :
    (under v name = [] ∧ a = default) ∨ ∃ w, under v name = [w] ∧ (reader w).Gives a := by
  obtain ⟨none, left⟩ | given := h.field
  · cases left
    exact .inl ⟨none, rfl⟩
  · exact .inr given

theorem text_of_named {k : Value} {key : String} (named : name? k = some key) (expected : String) (n : Nat) :
    (Source.text expected k : Reading String) n = .ok (key, n) := by
  unfold name? at named
  split at named
  · rename_i s found
    cases named
    simp only [Source.text, found]
    rfl
  · cases named

theorem text_of_unnamed {k : Value} (unnamed : name? k = none) (expected : String) (n : Nat) :
    ∃ e, (Source.text expected k : Reading String) n = .error e := by
  unfold name? at unnamed
  split at unnamed
  · cases unnamed
  · rename_i other
    simp only [Source.text]
    cases found : k.untagged with
    | text s => exact absurd found (other s)
    | _ => exact ⟨_, rfl⟩

theorem identify_known {names : List String} {k w : Value} {pairs : List (Value × Value)} {key : String}
    (named : name? k = some key) (known : key ∈ names) (p n : Nat) :
    identify (some names) v p ((k, w) :: pairs) n =
      ((⟨p, .root, key, w⟩ :: (identify (some names) v (p + 1) pairs n).1.1,
        (identify (some names) v (p + 1) pairs n).1.2), (identify (some names) v (p + 1) pairs n).2) := by
  rw [identify]
  simp only [bind, StateT.bind, get, getThe, MonadStateOf.get, StateT.get, pure, StateT.run,
    text_of_named named, Option.filter, known]
  rfl

theorem identify_unknown {names : List String} {k w : Value} {pairs : List (Value × Value)} {key : String}
    (named : name? k = some key) (unknown : key ∉ names) (p n : Nat) :
    (identify (some names) v p ((k, w) :: pairs) n).1.2 ≠ none := by
  rw [identify]
  simp only [bind, StateT.bind, get, getThe, MonadStateOf.get, StateT.get, pure, StateT.run,
    text_of_named named, Option.filter, unknown]
  rintro ⟨⟩

theorem identify_unnamed {names : List String} {k w : Value} {pairs : List (Value × Value)}
    (unnamed : name? k = none) (p n : Nat) :
    (identify (some names) v p ((k, w) :: pairs) n).1.2 ≠ none := by
  obtain ⟨e, refused⟩ := text_of_unnamed unnamed "field identifier" n
  rw [identify]
  simp only [bind, StateT.bind, get, getThe, MonadStateOf.get, StateT.get, pure, StateT.run, refused]
  rintro ⟨⟩

theorem identify_ok {names : List String} {pairs : List (Value × Value)} {p n n' : Nat}
    {entries : List (Entry Value)} (h : identify (some names) v p pairs n = ((entries, none), n')) :
    (∀ e ∈ pairs, ∃ name ∈ names, name? e.1 = some name) ∧
      ∀ name, (entries.filter (·.key = name)).map Entry.value =
        (pairs.filter fun e => name? e.1 = some name).map Prod.snd := by
  induction pairs generalizing p n entries with
  | nil =>
    cases h
    simp
  | cons pair pairs ih =>
    obtain ⟨k, w⟩ := pair
    cases named : name? k with
    | none => exact absurd (congrArg (·.1.2) h) (identify_unnamed named p n)
    | some key =>
      by_cases known : key ∈ names
      · rw [identify_known named known] at h
        rcases hr : identify (some names) v (p + 1) pairs n with ⟨⟨rest, failure⟩, n₁⟩
        rw [hr] at h
        cases h
        obtain ⟨each, values⟩ := ih hr
        refine ⟨List.forall_mem_cons.2 ⟨⟨key, known, named⟩, each⟩, fun name => ?_⟩
        by_cases this : key = name
        · simp [this, named, values name]
        · simp [this, named, values name]
      · exact absurd (congrArg (·.1.2) h) (identify_unknown named known p n)

theorem entries_ok {expected : String} {pairs : List (Value × Value)}
    (h : Reading.Gives (Source.entries expected v) pairs) : pairs = entriesOf v := by
  simp only [Source.entries] at h
  unfold entriesOf
  cases found : v.untagged with
  | mapping entries =>
    rw [found] at h
    exact h.pure_eq
  | null =>
    rw [found] at h
    exact h.pure_eq
  | boolean | number | text | sequence | tagged =>
    rw [found] at h
    cases not_gives_throw h

theorem strictRecord_ok {name : String} {fields : Fields Value α} {a : α}
    (h : (strictRecord name fields v).Gives a) :
    (∀ e ∈ entriesOf v, ∃ name ∈ fields.names, name? e.1 = some name) ∧ fields.Give v a := by
  obtain ⟨pairs, found, named⟩ := h.bind
  obtain ⟨⟨entries, stopped⟩, ⟨n, n', known⟩, rest⟩ := named.bind
  obtain ⟨⟨failure, result⟩, ⟨m, m', read⟩, last⟩ := Reading.Gives.bind rest
  have known : identify (some fields.names) v 0 pairs n = ((entries, stopped), n') := Except.ok.inj known
  have read : fields.read entries m = (⟨failure, result⟩, m') := Except.ok.inj read
  split at last
  · cases not_gives_throw last
  · rename_i b unfailing ok
    obtain ⟨rfl, rfl⟩ := earlier_none unfailing
    obtain rfl : result = .ok b := ok
    obtain ⟨each, values⟩ := identify_ok known
    rw [entries_ok found] at each values
    rw [last.pure_eq]
    exact ⟨each, entries, values, m, m', read⟩
  · cases not_gives_throw last

end Records

end GameDay.Decode
