namespace GameDay

variable {α β : Type}

namespace KeyOrder

def lookup : List (String × α) → String → Option α
  | [], _ => none
  | (k, v) :: rest, key => if k = key then some v else lookup rest key

def put : List (String × α) → String → α → List (String × α)
  | [], key, value => [(key, value)]
  | (k, v) :: rest, key, value =>
    if key < k then (key, value) :: (k, v) :: rest
    else if k = key then (key, value) :: rest
    else (k, v) :: put rest key value

def Sorted (entries : List (String × α)) : Prop := entries.Pairwise fun a b => a.1 < b.1

theorem mem_put {entries : List (String × α)} {key : String} {value : α} {e : String × α}
    (h : e ∈ put entries key value) : e = (key, value) ∨ e ∈ entries := by
  induction entries with
  | nil => simpa [put] using h
  | cons a rest ih =>
    obtain ⟨k, v⟩ := a
    simp only [put] at h
    split at h
    · simpa using h
    · split at h
      · rcases List.mem_cons.1 h with h | h
        · exact .inl h
        · exact .inr (List.mem_cons_of_mem _ h)
      · rcases List.mem_cons.1 h with h | h
        · exact .inr (h ▸ List.mem_cons_self)
        · exact (ih h).imp id (List.mem_cons_of_mem _)

theorem lt_of_not_lt_of_ne {a b : String} (h : ¬a < b) (hne : b ≠ a) : b < a :=
  Classical.byContradiction fun h' =>
    hne (String.le_antisymm (String.not_lt.1 h) (String.not_lt.1 h'))

theorem Sorted.put {entries : List (String × α)} (h : Sorted entries) (key : String) (value : α) :
    Sorted (put entries key value) := by
  induction entries with
  | nil => exact List.pairwise_singleton _ _
  | cons a rest ih =>
    obtain ⟨k, v⟩ := a
    obtain ⟨hk, hrest⟩ := List.pairwise_cons.1 h
    simp only [KeyOrder.put]
    split
    · rename_i hlt
      refine List.pairwise_cons.2 ⟨fun e he => ?_, h⟩
      rcases List.mem_cons.1 he with rfl | he
      · exact hlt
      · exact String.lt_trans hlt (hk e he)
    · rename_i hlt
      split
      · rename_i heq
        exact List.pairwise_cons.2 ⟨heq ▸ hk, hrest⟩
      · rename_i hne
        refine List.pairwise_cons.2 ⟨fun e he => ?_, ih hrest⟩
        rcases mem_put he with rfl | he
        · exact lt_of_not_lt_of_ne hlt hne
        · exact hk e he

theorem lookup_put (entries : List (String × α)) (key : String) (value : α) (j : String) :
    lookup (put entries key value) j = if key = j then some value else lookup entries j := by
  induction entries with
  | nil => rfl
  | cons a rest ih =>
    obtain ⟨k, v⟩ := a
    simp only [put]
    split
    · rfl
    · split
      · rename_i heq
        subst heq
        simp only [lookup]
        split <;> rfl
      · rename_i hne
        simp only [lookup, ih]
        by_cases hk : k = j
        · subst hk
          simp [Ne.symm hne]
        · simp [hk]

theorem lookup_eq_none_of_forall_lt {entries : List (String × α)} {key : String}
    (h : ∀ e ∈ entries, key < e.1) : lookup entries key = none := by
  induction entries with
  | nil => rfl
  | cons a rest ih =>
    have hne : a.1 ≠ key := fun heq => String.lt_irrefl _ (heq ▸ h a List.mem_cons_self)
    simp only [lookup, hne, if_false]
    exact ih fun e he => h e (List.mem_cons_of_mem _ he)

theorem Sorted.nodup_keys {entries : List (String × α)} (h : Sorted entries) :
    (entries.map Prod.fst).Nodup := by
  refine List.pairwise_map.2 (h.imp ?_)
  intro a b lt same
  rw [same] at lt
  exact String.lt_irrefl _ lt

theorem lookup_eq_some_iff {entries : List (String × α)} (distinct : (entries.map Prod.fst).Nodup)
    {key : String} {value : α} : lookup entries key = some value ↔ (key, value) ∈ entries := by
  induction entries with
  | nil => simp [lookup]
  | cons a rest ih =>
    obtain ⟨k, v⟩ := a
    obtain ⟨absent, hrest⟩ := List.nodup_cons.1 distinct
    simp only [lookup, List.mem_cons, Prod.mk.injEq]
    by_cases heq : k = key
    · subst heq
      have hno : (k, value) ∉ rest := fun hm => absent (List.mem_map.2 ⟨_, hm, rfl⟩)
      simp [hno, eq_comm]
    · simp [heq, Ne.symm heq, ih hrest]

theorem eq_of_lookup_eq {xs ys : List (String × α)} (hx : Sorted xs) (hy : Sorted ys)
    (h : ∀ key, lookup xs key = lookup ys key) : xs = ys := by
  induction xs generalizing ys with
  | nil =>
    cases ys with
    | nil => rfl
    | cons b ys => simpa [lookup] using h b.1
  | cons a xs ih =>
    obtain ⟨ha, hxs⟩ := List.pairwise_cons.1 hx
    cases ys with
    | nil => simpa [lookup] using h a.1
    | cons b ys =>
      obtain ⟨hb, hys⟩ := List.pairwise_cons.1 hy
      have head (x y : String × α) (xs ys : List (String × α)) (hx : ∀ e ∈ xs, x.1 < e.1)
          (h : lookup (x :: xs) y.1 = lookup (y :: ys) y.1) : ¬y.1 < x.1 := by
        intro hlt
        have hnone : lookup (x :: xs) y.1 = none := lookup_eq_none_of_forall_lt fun e he => by
          rcases List.mem_cons.1 he with rfl | he
          · exact hlt
          · exact String.lt_trans hlt (hx e he)
        rw [hnone] at h
        simp [lookup] at h
      have hkey : a.1 = b.1 := String.le_antisymm (String.not_lt.1 (head a b xs ys ha (h b.1)))
        (String.not_lt.1 (head b a ys xs hb (h a.1).symm))
      have hval : a = b := by
        have := h a.1
        simp only [lookup, if_pos, hkey] at this
        exact Prod.ext hkey (by simpa using this)
      subst hval
      refine congrArg _ (ih hxs hys fun key => ?_)
      by_cases hk : a.1 = key
      · subst hk
        rw [lookup_eq_none_of_forall_lt ha, lookup_eq_none_of_forall_lt hb]
      · simpa [lookup, hk] using h key

theorem sorted_map_values {entries : List (String × α)} (h : Sorted entries) (f : α → β) :
    Sorted (entries.map fun e => (e.1, f e.2)) :=
  List.pairwise_map.2 (h.imp fun h => h)

end KeyOrder

structure Dictionary (α : Type) where
  entries : List (String × α)
  sorted : KeyOrder.Sorted entries

namespace Dictionary

instance [DecidableEq α] : DecidableEq (Dictionary α) := fun d e =>
  decidable_of_iff (d.entries = e.entries) ⟨fun h => by cases d; cases e; cases h; rfl, fun h => h ▸ rfl⟩

def empty : Dictionary α := ⟨[], List.Pairwise.nil⟩

instance : Inhabited (Dictionary α) := ⟨empty⟩

def get? (d : Dictionary α) (key : String) : Option α := KeyOrder.lookup d.entries key

def insert (d : Dictionary α) (key : String) (value : α) : Dictionary α :=
  ⟨KeyOrder.put d.entries key value, d.sorted.put key value⟩

def keys (d : Dictionary α) : List String := d.entries.map Prod.fst

def values (d : Dictionary α) : List α := d.entries.map Prod.snd

def size (d : Dictionary α) : Nat := d.entries.length

def ofList (entries : List (String × α)) : Dictionary α :=
  entries.foldl (fun d e => d.insert e.1 e.2) empty

def mapValues (d : Dictionary α) (f : α → β) : Dictionary β :=
  ⟨d.entries.map fun e => (e.1, f e.2), KeyOrder.sorted_map_values d.sorted f⟩

@[simp] theorem get?_empty (key : String) : (empty : Dictionary α).get? key = none := rfl

theorem get?_insert (d : Dictionary α) (key : String) (value : α) (j : String) :
    (d.insert key value).get? j = if key = j then some value else d.get? j :=
  KeyOrder.lookup_put _ _ _ _

theorem get?_eq_some_iff {d : Dictionary α} {key : String} {value : α} :
    d.get? key = some value ↔ (key, value) ∈ d.entries :=
  KeyOrder.lookup_eq_some_iff d.sorted.nodup_keys

theorem ext_get? {d e : Dictionary α} (h : ∀ key, d.get? key = e.get? key) : d = e := by
  cases d; cases e
  congr
  exact KeyOrder.eq_of_lookup_eq ‹_› ‹_› h

end Dictionary

end GameDay
