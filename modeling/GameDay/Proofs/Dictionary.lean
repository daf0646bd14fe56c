import GameDay.Dictionary
import Mathlib.Data.List.Dedup
import Mathlib.Data.List.Induction

namespace GameDay.Dictionary

variable {α : Type}

theorem ofList_concat (entries : List (String × α)) (e : String × α) :
    ofList (entries ++ [e]) = (ofList entries).insert e.1 e.2 := by
  simp [ofList]

theorem mem_of_get?_ofList {entries : List (String × α)} {key : String} {value : α}
    (h : (ofList entries).get? key = some value) : (key, value) ∈ entries := by
  induction entries using List.reverseRecOn with
  | nil => cases h
  | append_singleton entries e ih =>
    rw [ofList_concat, get?_insert] at h
    split at h
    · rename_i same
      cases h
      subst same
      simp
    · exact List.mem_append_left _ (ih h)

theorem get?_ofList_isSome (entries : List (String × α)) (key : String) :
    ((ofList entries).get? key).isSome ↔ key ∈ entries.map Prod.fst := by
  induction entries using List.reverseRecOn with
  | nil => simp [ofList]
  | append_singleton entries e ih =>
    rw [ofList_concat, get?_insert, List.map_append, List.mem_append]
    by_cases same : e.1 = key
    · simp [same]
    · rw [if_neg same, ih]
      simp [Ne.symm same]

theorem get?_ofList_of_mem {entries : List (String × α)} (distinct : (entries.map Prod.fst).Nodup)
    {e : String × α} (mem : e ∈ entries) : (ofList entries).get? e.1 = some e.2 := by
  have known : ((ofList entries).get? e.1).isSome :=
    (get?_ofList_isSome entries e.1).2 (List.mem_map_of_mem mem)
  obtain ⟨value, found⟩ := Option.isSome_iff_exists.1 known
  have same : (e.1, value) = e := List.inj_on_of_nodup_map distinct (mem_of_get?_ofList found) mem rfl
  rw [found, ← same]

theorem mem_keys_iff (d : Dictionary α) (key : String) : key ∈ d.keys ↔ (d.get? key).isSome := by
  rw [Option.isSome_iff_exists]
  simp only [get?_eq_some_iff, keys, List.mem_map, Prod.exists, exists_and_right, exists_eq_right]

theorem nodup_keys (d : Dictionary α) : d.keys.Nodup := d.sorted.nodup_keys

theorem eq_of_mem_entries {dict : Dictionary α} {e f : String × α}
    (he : e ∈ dict.entries) (hf : f ∈ dict.entries) (same : e.1 = f.1) : e = f :=
  List.inj_on_of_nodup_map dict.nodup_keys he hf same

theorem size_ofList (entries : List (String × α)) :
    (ofList entries).size = (entries.map Prod.fst).dedup.length := by
  have perm : (ofList entries).keys.Perm (entries.map Prod.fst).dedup := by
    refine (List.perm_ext_iff_of_nodup (nodup_keys _) (List.nodup_dedup _)).2 fun key => ?_
    rw [mem_keys_iff, get?_ofList_isSome, List.mem_dedup]
  rw [← perm.length_eq, keys, List.length_map, size]

end GameDay.Dictionary
