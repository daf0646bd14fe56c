import GameDay.Proofs.Estimates.Chains
import Mathlib.Data.Set.Function

/-!
A template is never estimated shorter than one whose actions it has too, under whatever names, after the same
actions and none of them shorter. Whatever makes actions longer or adds one therefore makes no estimate
shorter, and names do not count.
-/

namespace GameDay.Fis

structure Lengthened (actions longer : TemplateActions) : Prop where
  names : longer.keys = actions.keys
  each : ∀ e ∈ actions.entries, ∀ f ∈ longer.entries, f.1 = e.1 →
    e.2.duration ≤ f.2.duration ∧ f.2.startAfter = e.2.startAfter

/-- The names of the actions and those that they start after, whether these exist or not. -/
def TemplateActions.names (actions : TemplateActions) : Set String :=
  {p | ∃ e ∈ actions.entries, p = e.1 ∨ p ∈ e.2.startAfter}

def Action.renamed (f : String → String) (a : Action) : Action :=
  { duration := a.duration, startAfter := a.startAfter.map f }

def TemplateActions.renamed (f : String → String) (actions : TemplateActions) : TemplateActions :=
  .ofList (actions.entries.map fun e => (f e.1, e.2.renamed f))

def Carried (f : String → String) (actions other : TemplateActions) : Prop :=
  ∀ e ∈ actions.entries, ∃ d, e.2.duration ≤ d ∧
    other.get? (f e.1) = some { duration := d, startAfter := e.2.startAfter.map f }

section Carrying

variable {actions other : TemplateActions} {f : String → String}

theorem exists_longest_total (actions : TemplateActions) :
    ∃ m, IsGreatest (spans actions) m ∧ actions.totalDuration.nanos = min m Duration.longest.nanos :=
  (complete_of_settling (settling_settle .empty actions.entries) .begun).exists_longest

theorem Carried.resolvable (h : Carried f actions other) {p : String} (settles : Resolvable actions p) :
    Resolvable other (f p) := by
  induction settles with
  | @intro name a known after ih =>
    obtain ⟨d, _, found⟩ := h (name, a) (Dictionary.get?_eq_some_iff.1 known)
    apply Resolvable.intro found
    intro q mem
    obtain ⟨p, before, rfl⟩ := List.mem_map.1 mem
    exact ih p before

theorem Carried.chain (h : Carried f actions other) {c : List (String × Action)} (chain : Chain actions c) :
    ∃ c', Chain other c' ∧ span c ≤ span c' ∧ c'.map Prod.fst = c.map fun e => f e.1 := by
  induction c using List.reverseRecOn with
  | nil => exact ⟨[], .nil, Nat.le_refl _, rfl⟩
  | append_singleton c e ih =>
    obtain ⟨c', chain', longer, names⟩ := ih chain.left
    have last : e ∈ c ++ [e] := List.mem_append_right _ List.mem_cons_self
    obtain ⟨d, more, found⟩ := h e (chain.known e last)
    refine ⟨c' ++ [(f e.1, ⟨d, e.2.startAfter.map f⟩)], ?_, ?_, by simp [names]⟩
    · apply chain'.concat (Dictionary.get?_eq_some_iff.1 found) (h.resolvable (chain.resolvable e last))
      intro g before
      rcases List.eq_nil_or_concat' c with rfl | ⟨c, p, rfl⟩
      · rw [List.map_eq_nil_iff.1 names] at before
        cases before
      · have link : p.1 ∈ e.2.startAfter := by
          apply (List.isChain_append.1 chain.linked).2.2 p
          · simp
          · rfl
        have name : g.1 = f p.1 := by
          have ends := congrArg List.getLast? names
          rw [List.getLast?_map, Option.mem_def.1 before] at ends
          simpa using ends
        simp only [name]
        exact List.mem_map_of_mem link
    · rw [span_append, span_append, span_singleton, span_singleton]
      exact Nat.add_le_add longer more

theorem Carried.le_span (h : Carried f actions other) {n : Nat} (mem : n ∈ spans actions) :
    ∃ m ∈ spans other, n ≤ m := by
  rcases mem with ⟨c, chain, rfl⟩ | ⟨e, known, _, rfl⟩
  · obtain ⟨c', chain', longer, _⟩ := h.chain chain
    exact ⟨_, .inl ⟨c', chain', rfl⟩, longer⟩
  · obtain ⟨d, more, found⟩ := h e known
    have carried := Dictionary.get?_eq_some_iff.1 found
    -- What never settles here may settle there, and is then a chain of its own.
    by_cases settles : Resolvable other (f e.1)
    · have chain := Chain.nil.concat carried settles (by simp)
      refine ⟨_, .inl ⟨_, chain, rfl⟩, ?_⟩
      rw [List.nil_append, span_singleton]
      exact more
    · exact ⟨_, .inr ⟨_, carried, settles, rfl⟩, more⟩

theorem Carried.le (h : Carried f actions other) : actions.totalDuration ≤ other.totalDuration := by
  obtain ⟨m, ⟨attained, _⟩, total⟩ := exists_longest_total actions
  obtain ⟨m', ⟨_, bound⟩, total'⟩ := exists_longest_total other
  obtain ⟨n, mem, longer⟩ := h.le_span attained
  have below := bound mem
  rw [Duration.le_iff, total, total']
  omega

theorem Lengthened.carried (h : Lengthened actions other) : Carried id actions other := by
  intro e mem
  have known : e.1 ∈ other.keys := by
    rw [h.names]
    exact List.mem_map_of_mem mem
  obtain ⟨f, found, same⟩ := List.mem_map.1 known
  obtain ⟨longer, after⟩ := h.each e mem f found same
  refine ⟨f.2.duration, longer, ?_⟩
  have entry := Dictionary.get?_eq_some_iff.2 found
  rw [List.map_id, ← after, id_eq, ← same]
  exact entry

theorem carried_insert {name : String} (fresh : actions.get? name = none) (a : Action) :
    Carried id actions (actions.insert name a) := by
  intro e mem
  have known := Dictionary.get?_eq_some_iff.2 mem
  have other : name ≠ e.1 := by
    rintro rfl
    cases fresh.symm.trans known
  refine ⟨e.2.duration, Nat.le_refl _, ?_⟩
  rw [id_eq, Dictionary.get?_insert, if_neg other, List.map_id]
  exact known

theorem nodup_renamed (distinct : Set.InjOn f actions.names) :
    (actions.entries.map fun e => f e.1).Nodup := by
  have names : (actions.keys.map f).Nodup := by
    apply actions.nodup_keys.map_on
    intro p here q there same
    obtain ⟨e, known, rfl⟩ := List.mem_map.1 here
    obtain ⟨e', known', rfl⟩ := List.mem_map.1 there
    exact distinct ⟨e, known, .inl rfl⟩ ⟨e', known', .inl rfl⟩ same
  simpa [Dictionary.keys, Function.comp_def] using names

theorem carried_renamed (distinct : Set.InjOn f actions.names) :
    Carried f actions (actions.renamed f) := by
  intro e mem
  refine ⟨e.2.duration, Nat.le_refl _, ?_⟩
  have names : ((actions.entries.map fun e => (f e.1, e.2.renamed f)).map Prod.fst).Nodup := by
    simpa [Function.comp_def] using nodup_renamed distinct
  exact Dictionary.get?_ofList_of_mem names (List.mem_map_of_mem mem)

theorem exists_carried_back (distinct : Set.InjOn f actions.names) :
    ∃ g, Carried g (actions.renamed f) actions := by
  obtain ⟨g, back⟩ : ∃ g : String → String, ∀ p ∈ actions.names, g (f p) = p :=
    ⟨Function.invFunOn f actions.names, fun p mem => distinct.leftInvOn_invFunOn mem⟩
  refine ⟨g, ?_⟩
  rintro ⟨name, a⟩ mem
  have entry := Dictionary.mem_of_get?_ofList (Dictionary.get?_eq_some_iff.2 mem)
  obtain ⟨e, known, same⟩ := List.mem_map.1 entry
  cases same
  refine ⟨e.2.duration, Nat.le_refl _, ?_⟩
  have after : (e.2.startAfter.map f).map g = e.2.startAfter := by
    rw [List.map_map]
    have same : ∀ p ∈ e.2.startAfter, g (f p) = p :=
      fun p before => back p ⟨e, known, .inr before⟩
    exact (List.map_congr_left same).trans (List.map_id' _)
  simp only [Action.renamed, after, back e.1 ⟨e, known, .inl rfl⟩]
  exact Dictionary.get?_eq_some_iff.2 known

end Carrying

/-- No estimate gets shorter by longer actions or by an action with a name that is not taken, whatever that
one starts after, and none changes by new names. -/
theorem total_monotone (actions : TemplateActions) :
    (∀ longer, Lengthened actions longer → actions.totalDuration ≤ longer.totalDuration) ∧
    (∀ name a, actions.get? name = none →
      actions.totalDuration ≤ TemplateActions.totalDuration (actions.insert name a)) ∧
    ∀ f, Set.InjOn f actions.names → (actions.renamed f).totalDuration = actions.totalDuration := by
  refine ⟨?_, ?_, ?_⟩
  · intro longer lengthened
    exact lengthened.carried.le
  · intro name a fresh
    exact (carried_insert fresh a).le
  · intro f distinct
    obtain ⟨g, back⟩ := exists_carried_back distinct
    exact Duration.ext_nanos (Nat.le_antisymm back.le (carried_renamed distinct).le)

def drill : TemplateActions := .ofList
  [("drain", ⟨⟨60 * 10 ^ 9, by decide⟩, []⟩), ("reboot", ⟨⟨30 * 10 ^ 9, by decide⟩, ["drain"]⟩),
    ("verify", ⟨⟨20 * 10 ^ 9, by decide⟩, ["reboot", "alarm"]⟩), ("watch", ⟨⟨50 * 10 ^ 9, by decide⟩, ["watch"]⟩)]

def drawnOut : TemplateActions := .ofList
  [("drain", ⟨⟨90 * 10 ^ 9, by decide⟩, []⟩), ("reboot", ⟨⟨30 * 10 ^ 9, by decide⟩, ["drain"]⟩),
    ("verify", ⟨⟨20 * 10 ^ 9, by decide⟩, ["reboot", "alarm"]⟩), ("watch", ⟨⟨150 * 10 ^ 9, by decide⟩, ["watch"]⟩)]

def alarm : Action := ⟨⟨10 * 10 ^ 9, by decide⟩, ["reboot"]⟩

theorem drill_monotone :
    Lengthened drill drawnOut ∧ drill.totalDuration ≤ drawnOut.totalDuration ∧
    drill.get? "alarm" = none ∧ drill.totalDuration ≤ TemplateActions.totalDuration (drill.insert "alarm" alarm) ∧
    Set.InjOn ("second-" ++ ·) drill.names ∧
    (drill.renamed ("second-" ++ ·)).totalDuration = drill.totalDuration := by
  obtain ⟨longer, inserted, renamed⟩ := total_monotone drill
  have slower : Lengthened drill drawnOut := ⟨by decide, by decide⟩
  have fresh : drill.get? "alarm" = none := by decide
  have distinct : Set.InjOn ("second-" ++ ·) drill.names := by
    intro p _ q _ same
    exact (String.append_right_inj _).1 same
  exact ⟨slower, longer drawnOut slower, fresh, inserted "alarm" alarm fresh, distinct, renamed _ distinct⟩

end GameDay.Fis
