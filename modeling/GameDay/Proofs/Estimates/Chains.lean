import GameDay.Fis.Estimate
import GameDay.Proofs.Dictionary
import Mathlib.Algebra.Ring.Nat
import Mathlib.Data.List.Chain
import Mathlib.Order.Bounds.Basic

/-!
How long a template runs is the length of its longest chain of actions. Actions may be settled in any order,
and the passes that settle them are no more than the actions.
-/

namespace GameDay

namespace Fis

/-- The least set of names that has each action which only starts after actions in it. -/
inductive Resolvable (actions : TemplateActions) : String → Prop
  | intro {name : String} {a : Action} (known : actions.get? name = some a)
      (after : ∀ p ∈ a.startAfter, Resolvable actions p) : Resolvable actions name

/-- Actions that can settle, each of which starts after the one before it. -/
structure Chain (actions : TemplateActions) (c : List (String × Action)) : Prop where
  known : ∀ e ∈ c, e ∈ actions.entries
  resolvable : ∀ e ∈ c, Resolvable actions e.1
  linked : c.IsChain fun e f => e.1 ∈ f.2.startAfter

def span (c : List (String × Action)) : Nat := (c.map fun e => e.2.duration.nanos).sum

/-- How long the chains are, the empty one among them, and the actions that never settle. -/
def spans (actions : TemplateActions) : Set Nat :=
  {n | (∃ c, Chain actions c ∧ n = span c) ∨
    ∃ e ∈ actions.entries, ¬ Resolvable actions e.1 ∧ n = e.2.duration.nanos}

def spansTo (actions : TemplateActions) (name : String) : Set Nat :=
  {n | ∃ c e, e.1 = name ∧ Chain actions (c ++ [e]) ∧ n = span (c ++ [e])}

def EndsAt (actions : TemplateActions) (e : String × Action) (n : Nat) : Prop :=
  (Resolvable actions e.1 ∧ IsGreatest (spansTo actions e.1) n) ∨
    (¬ Resolvable actions e.1 ∧ n = e.2.duration.nanos)

/-- Only actions that can settle have settled, and each ends when its longest chain does, if that is not too
long for a duration. -/
def Settled (actions : TemplateActions) (ends : EndTimes) : Prop :=
  ∀ p d, ends.get? p = some d → Resolvable actions p ∧
    ∃ n, IsGreatest (spansTo actions p) n ∧ d.nanos = min n Duration.longest.nanos

def countAlone (ends : EndTimes) (waiting : List (String × Action)) : EndTimes :=
  waiting.foldl (fun ends e => ends.insert e.1 e.2.duration) ends

/-- One after the other, actions are settled that can be, whichever they are, until none can. -/
inductive Settling : EndTimes → List (String × Action) → EndTimes → Prop
  | settles {ends out : EndTimes} {waiting rest : List (String × Action)} {e : String × Action}
      {d : Duration} (one : waiting.Perm (e :: rest)) (ended : e.2.end? ends = some d)
      (later : Settling (ends.insert e.1 d) rest out) : Settling ends waiting out
  | stuck {ends : EndTimes} {waiting order : List (String × Action)} (left : waiting.Perm order)
      (none : ∀ e ∈ waiting, e.2.end? ends = none) : Settling ends waiting (countAlone ends order)

def settleWithin : Nat → EndTimes → List (String × Action) → Option EndTimes
  | _, ends, [] => some ends
  | 0, _, _ :: _ => none
  | passes + 1, ends, e :: rest =>
    let r := settlePass ends (e :: rest)
    if r.2.length < (e :: rest).length then settleWithin passes r.1 r.2
    else some (countAlone r.1 r.2)

section Passes

variable {ends : EndTimes} {waiting : List (String × Action)}

theorem length_settlePass (ends : EndTimes) (waiting : List (String × Action)) :
    (settlePass ends waiting).2.length ≤ waiting.length := by
  induction waiting generalizing ends with
  | nil => exact Nat.le_refl _
  | cons e rest ih =>
    obtain ⟨name, a⟩ := e
    unfold settlePass
    split
    · have := ih (ends.insert name ‹_›)
      simp only [List.length_cons]
      omega
    · have := ih ends
      simp only [List.length_cons]
      omega

theorem settleWithin_eq {passes : Nat} (enough : waiting.length ≤ passes) :
    settleWithin passes ends waiting = some (settle ends waiting) := by
  induction passes generalizing ends waiting with
  | zero =>
    obtain rfl := List.eq_nil_of_length_eq_zero (Nat.le_zero.1 enough)
    unfold settle
    rfl
  | succ passes ih =>
    cases waiting with
    | nil =>
      unfold settle
      rfl
    | cons e rest =>
      unfold settle settleWithin
      simp only
      split
      · apply ih
        omega
      · rfl

theorem settlePass_stuck (all : waiting.length ≤ (settlePass ends waiting).2.length) :
    settlePass ends waiting = (ends, waiting) ∧ ∀ e ∈ waiting, e.2.end? ends = none := by
  induction waiting generalizing ends with
  | nil => exact ⟨rfl, List.forall_mem_nil _⟩
  | cons e rest ih =>
    obtain ⟨name, a⟩ := e
    unfold settlePass at all ⊢
    cases ended : a.end? ends with
    | some d =>
      simp only [ended] at all
      have fewer := length_settlePass (ends.insert name d) rest
      simp only [List.length_cons] at all
      omega
    | none =>
      simp only [ended, List.length_cons] at all ⊢
      obtain ⟨same, none⟩ := ih (Nat.le_of_succ_le_succ all)
      rw [same]
      exact ⟨rfl, List.forall_mem_cons.2 ⟨ended, none⟩⟩

theorem settling_of_pass {kept visited : List (String × Action)} {out : EndTimes}
    (order : waiting.Perm (kept ++ visited))
    (later : Settling (settlePass ends visited).1 (kept ++ (settlePass ends visited).2) out) :
    Settling ends waiting out := by
  induction visited generalizing ends kept waiting with
  | nil =>
    cases later with
    | settles one ended later => exact .settles (order.trans one) ended later
    | stuck left none => exact .stuck (order.trans left) fun e mem => none e (order.mem_iff.1 mem)
  | cons e visited ih =>
    obtain ⟨name, a⟩ := e
    unfold settlePass at later
    cases ended : a.end? ends with
    | some d =>
      simp only [ended] at later
      exact .settles (order.trans List.perm_middle) ended (ih (.refl _) later)
    | none =>
      simp only [ended] at later
      have left : waiting.Perm ((kept ++ [(name, a)]) ++ visited) := by rwa [List.append_assoc]
      apply ih left
      rwa [List.append_assoc]

theorem settling_settle (ends : EndTimes) (waiting : List (String × Action)) :
    Settling ends waiting (settle ends waiting) := by
  induction ends, waiting using settle.induct with
  | case1 ends waiting r progress ih =>
    unfold settle
    simp only
    rw [if_pos progress]
    have all : waiting.Perm ([] ++ waiting) := .refl _
    exact settling_of_pass all ih
  | case2 ends waiting r stuck =>
    unfold settle
    simp only
    rw [if_neg stuck]
    obtain ⟨same, none⟩ := settlePass_stuck (Nat.le_of_not_lt stuck)
    rw [same]
    exact .stuck (.refl _) none

end Passes

section Ends

variable {actions : TemplateActions} {ends out : EndTimes} {waiting : List (String × Action)}
  {e : String × Action} {m n : Nat} {d : Duration}

theorem span_append (c c' : List (String × Action)) : span (c ++ c') = span c + span c' := by
  simp [span]

theorem span_singleton (e : String × Action) : span [e] = e.2.duration.nanos := by
  simp [span]

theorem Chain.nil : Chain actions [] :=
  ⟨List.forall_mem_nil _, List.forall_mem_nil _, .nil⟩

theorem Chain.left {c c' : List (String × Action)} (h : Chain actions (c ++ c')) : Chain actions c :=
  ⟨fun e mem => h.known e (List.mem_append_left _ mem),
    fun e mem => h.resolvable e (List.mem_append_left _ mem), h.linked.left_of_append⟩

theorem Chain.concat {c : List (String × Action)} (h : Chain actions c) (known : e ∈ actions.entries)
    (resolvable : Resolvable actions e.1) (link : ∀ f ∈ c.getLast?, f.1 ∈ e.2.startAfter) :
    Chain actions (c ++ [e]) := by
  constructor
  · exact List.forall_mem_append.2 ⟨h.known, List.forall_mem_singleton.2 known⟩
  · exact List.forall_mem_append.2 ⟨h.resolvable, List.forall_mem_singleton.2 resolvable⟩
  · apply List.isChain_append.2
    refine ⟨h.linked, .singleton e, ?_⟩
    rintro f last _ ⟨⟩
    exact link f last

theorem EndsAt.unique (h : EndsAt actions e m) (h' : EndsAt actions e n) : m = n := by
  rcases h with ⟨settles, h⟩ | ⟨never, rfl⟩
  · rcases h' with ⟨_, h'⟩ | ⟨never, _⟩
    · exact h.unique h'
    · exact (never settles).elim
  · rcases h' with ⟨settles, _⟩ | ⟨_, rfl⟩
    · exact (never settles).elim
    · rfl

theorem EndsAt.mem_spans (h : EndsAt actions e n) (known : e ∈ actions.entries) : n ∈ spans actions := by
  rcases h with ⟨_, ⟨c, f, _, chain, same⟩, _⟩ | alone
  · exact .inl ⟨_, chain, same⟩
  · exact .inr ⟨e, known, alone⟩

theorem exists_latest {names : List String} {start : Duration} (settled : Settled actions ends)
    (h : latestEnd? ends names = some start) : ∃ m, start.nanos = min m Duration.longest.nanos ∧
      (∀ p ∈ names, Resolvable actions p) ∧ (∀ p ∈ names, ∀ n ∈ spansTo actions p, n ≤ m) ∧
      (m = 0 ∨ ∃ p ∈ names, m ∈ spansTo actions p) := by
  induction names generalizing start with
  | nil =>
    cases h
    exact ⟨0, rfl, List.forall_mem_nil _, List.forall_mem_nil _, .inl rfl⟩
  | cons p names ih =>
    obtain ⟨d, first, h⟩ := Option.bind_eq_some_iff.1 h
    obtain ⟨later, rest, h⟩ := Option.bind_eq_some_iff.1 h
    cases h
    obtain ⟨resolvable, n, greatest, exact_d⟩ := settled p d first
    obtain ⟨m, exact_later, all, bound, attained⟩ := ih rest
    refine ⟨max n m, ?_, List.forall_mem_cons.2 ⟨resolvable, all⟩, List.forall_mem_cons.2 ⟨?_, ?_⟩, ?_⟩
    · rw [Duration.nanos_max, exact_d, exact_later]
      omega
    · intro k mem
      exact Nat.le_trans (greatest.2 mem) (Nat.le_max_left n m)
    · intro q mem k span
      exact Nat.le_trans (bound q mem k span) (Nat.le_max_right n m)
    · by_cases le : n ≤ m
      · rw [Nat.max_eq_right le]
        rcases attained with zero | ⟨q, mem, found⟩
        · exact .inl zero
        · exact .inr ⟨q, List.mem_cons_of_mem _ mem, found⟩
      · rw [Nat.max_eq_left (by omega)]
        exact .inr ⟨p, List.mem_cons_self, greatest.1⟩

theorem exists_none_of_latestEnd? {names : List String} (h : latestEnd? ends names = none) :
    ∃ p ∈ names, ends.get? p = none := by
  induction names with
  | nil => cases h
  | cons p names ih =>
    cases first : ends.get? p with
    | none => exact ⟨p, List.mem_cons_self, first⟩
    | some d =>
      cases rest : latestEnd? ends names with
      | none =>
        obtain ⟨q, mem, unsettled⟩ := ih rest
        exact ⟨q, List.mem_cons_of_mem _ mem, unsettled⟩
      | some later =>
        simp only [latestEnd?, first, rest] at h
        cases h

theorem settles (settled : Settled actions ends) (known : e ∈ actions.entries)
    (ended : e.2.end? ends = some d) : Resolvable actions e.1 ∧
      ∃ n, IsGreatest (spansTo actions e.1) n ∧ d.nanos = min n Duration.longest.nanos := by
  obtain ⟨start, latest, rfl⟩ := Option.map_eq_some_iff.1 ended
  obtain ⟨m, exact_start, all, bound, attained⟩ := exists_latest settled latest
  have resolvable : Resolvable actions e.1 := .intro (Dictionary.get?_eq_some_iff.2 known) all
  refine ⟨resolvable, m + e.2.duration.nanos, ⟨?_, ?_⟩, ?_⟩
  · rcases attained with rfl | ⟨_, mem, c, f, rfl, chain, rfl⟩
    · refine ⟨[], e, rfl, Chain.nil.concat known resolvable (by simp), ?_⟩
      simp [span]
    · refine ⟨c ++ [f], e, rfl, chain.concat known resolvable (by simpa using mem), ?_⟩
      rw [span_append (c ++ [f]), span_singleton]
  · rintro n ⟨c, f, same, chain, rfl⟩
    have this : f = e :=
      Dictionary.eq_of_mem_entries (chain.known f (List.mem_append_right _ List.mem_cons_self)) known same
    subst this
    rw [span_append, span_singleton]
    rcases List.eq_nil_or_concat' c with rfl | ⟨c, p, rfl⟩
    · simp only [span, List.map_nil, List.sum_nil]
      omega
    · have link : p.1 ∈ f.2.startAfter := by
        apply (List.isChain_append.1 chain.linked).2.2 p
        · simp
        · rfl
      have before := bound p.1 link _ ⟨c, p, rfl, chain.left, rfl⟩
      omega
  · rw [Duration.nanos_addUpTo, exact_start]
    omega

structure Underway (actions : TemplateActions) (ends : EndTimes) (waiting : List (String × Action)) :
    Prop where
  settled : Settled actions ends
  known : ∀ e ∈ waiting, e ∈ actions.entries
  covered : ∀ e ∈ actions.entries, e ∈ waiting ∨ ∃ d, ends.get? e.1 = some d

theorem Underway.begun : Underway actions .empty actions.entries := by
  constructor
  · intro p d h
    cases h
  · exact fun _ mem => mem
  · exact fun _ mem => .inl mem

theorem Underway.next {rest : List (String × Action)} (h : Underway actions ends waiting)
    (one : waiting.Perm (e :: rest)) (ended : e.2.end? ends = some d) :
    Underway actions (ends.insert e.1 d) rest := by
  have known : e ∈ actions.entries := h.known e (one.mem_iff.2 List.mem_cons_self)
  constructor
  · intro p d' found
    rw [Dictionary.get?_insert] at found
    split at found
    · rename_i same
      cases found
      subst same
      exact settles h.settled known ended
    · exact h.settled p d' found
  · intro f mem
    exact h.known f (one.mem_iff.2 (List.mem_cons_of_mem _ mem))
  · intro f mem
    simp only [Dictionary.get?_insert]
    by_cases same : e.1 = f.1
    · exact .inr ⟨d, if_pos same⟩
    · rw [if_neg same]
      rcases h.covered f mem with waits | settled
      · rcases List.mem_cons.1 (one.mem_iff.1 waits) with rfl | waits
        · exact (same rfl).elim
        · exact .inl waits
      · exact .inr settled

theorem Underway.exists_end (h : Underway actions ends waiting)
    (stuck : ∀ e ∈ waiting, e.2.end? ends = none) {name : String} (settles : Resolvable actions name) :
    ∃ d, ends.get? name = some d := by
  induction settles with
  | @intro name a known after ih =>
    rcases h.covered _ (Dictionary.get?_eq_some_iff.1 known) with waits | settled
    · obtain ⟨p, mem, unsettled⟩ := exists_none_of_latestEnd? (Option.map_eq_none_iff.1 (stuck _ waits))
      obtain ⟨d, found⟩ := ih p mem
      cases found.symm.trans unsettled
    · exact settled

theorem Underway.not_resolvable (h : Underway actions ends waiting)
    (stuck : ∀ e ∈ waiting, e.2.end? ends = none) (waits : e ∈ waiting) : ¬ Resolvable actions e.1 := by
  rintro ⟨known, after⟩
  cases known.symm.trans (Dictionary.get?_eq_some_iff.2 (h.known e waits))
  obtain ⟨p, mem, unsettled⟩ := exists_none_of_latestEnd? (Option.map_eq_none_iff.1 (stuck e waits))
  obtain ⟨d, found⟩ := h.exists_end stuck (after p mem)
  cases found.symm.trans unsettled

theorem get?_countAlone (ends : EndTimes) (order : List (String × Action)) (name : String) :
    (∃ e ∈ order, e.1 = name ∧ (countAlone ends order).get? name = some e.2.duration) ∨
      ((∀ e ∈ order, e.1 ≠ name) ∧ (countAlone ends order).get? name = ends.get? name) := by
  induction order using List.reverseRecOn with
  | nil => exact .inr ⟨List.forall_mem_nil _, rfl⟩
  | append_singleton order e ih =>
    have later : countAlone ends (order ++ [e]) = (countAlone ends order).insert e.1 e.2.duration := by
      simp [countAlone]
    rw [later, Dictionary.get?_insert]
    by_cases same : e.1 = name
    · exact .inl ⟨e, by simp, same, if_pos same⟩
    · rw [if_neg same]
      rcases ih with ⟨f, mem, found⟩ | ⟨none, found⟩
      · exact .inl ⟨f, List.mem_append_left _ mem, found⟩
      · refine .inr ⟨?_, found⟩
        exact List.forall_mem_append.2 ⟨none, List.forall_mem_singleton.2 same⟩

/-- The end times when all is settled: of all actions and of nothing else. -/
structure Complete (actions : TemplateActions) (ends : EndTimes) : Prop where
  known : ∀ name d, ends.get? name = some d → ∃ a, actions.get? name = some a
  ended : ∀ e ∈ actions.entries, ∃ d n, ends.get? e.1 = some d ∧ EndsAt actions e n ∧
    d.nanos = min n Duration.longest.nanos

theorem Underway.complete (h : Underway actions ends waiting) {order : List (String × Action)}
    (left : waiting.Perm order) (stuck : ∀ e ∈ waiting, e.2.end? ends = none) :
    Complete actions (countAlone ends order) := by
  constructor
  · intro name d found
    rcases get?_countAlone ends order name with ⟨e, mem, rfl, _⟩ | ⟨_, same⟩
    · exact ⟨e.2, Dictionary.get?_eq_some_iff.2 (h.known e (left.mem_iff.2 mem))⟩
    · rw [same] at found
      obtain ⟨⟨known, _⟩, _⟩ := h.settled name d found
      exact ⟨_, known⟩
  · intro e known
    rcases get?_countAlone ends order e.1 with ⟨f, mem, same, found⟩ | ⟨none, same⟩
    · have waits := left.mem_iff.2 mem
      have this : f = e := Dictionary.eq_of_mem_entries (h.known f waits) known same
      subst this
      refine ⟨_, _, found, .inr ⟨h.not_resolvable stuck waits, rfl⟩, ?_⟩
      have := f.2.duration.nanos_lt
      simp only [Duration.longest]
      omega
    · rcases h.covered e known with waits | ⟨d, found⟩
      · exact (none e (left.mem_iff.1 waits) rfl).elim
      · obtain ⟨resolvable, n, greatest, exact_d⟩ := h.settled e.1 d found
        exact ⟨d, n, same.trans found, .inl ⟨resolvable, greatest⟩, exact_d⟩

theorem complete_of_settling (settling : Settling ends waiting out) (h : Underway actions ends waiting) :
    Complete actions out := by
  induction settling with
  | settles one ended _ ih => exact ih (h.next one ended)
  | stuck left none => exact h.complete left none

namespace Complete

theorem get?_eq_none_iff (h : Complete actions ends) (name : String) :
    ends.get? name = none ↔ actions.get? name = none := by
  constructor
  · intro absent
    rw [Option.eq_none_iff_forall_ne_some]
    intro a known
    obtain ⟨d, _, found, _⟩ := h.ended (name, a) (Dictionary.get?_eq_some_iff.1 known)
    cases found.symm.trans absent
  · intro absent
    rw [Option.eq_none_iff_forall_ne_some]
    intro d found
    obtain ⟨a, known⟩ := h.known name d found
    cases known.symm.trans absent

theorem unique (h : Complete actions ends) (h' : Complete actions out) : ends = out := by
  apply Dictionary.ext_get?
  intro name
  cases known : actions.get? name with
  | none => rw [(h.get?_eq_none_iff name).2 known, (h'.get?_eq_none_iff name).2 known]
  | some a =>
    obtain ⟨d, n, found, at_n, exact_d⟩ := h.ended (name, a) (Dictionary.get?_eq_some_iff.1 known)
    obtain ⟨d', n', found', at_n', exact_d'⟩ := h'.ended (name, a) (Dictionary.get?_eq_some_iff.1 known)
    rw [found, found']
    have same := at_n.unique at_n'
    apply congrArg some
    apply Duration.ext_nanos
    rw [exact_d, exact_d', same]

theorem exists_last (h : Complete actions ends) {part : List (String × Action)}
    (known : ∀ e ∈ part, e ∈ actions.entries) :
    ∃ m, (m = 0 ∨ ∃ e ∈ part, EndsAt actions e m) ∧ ∀ e ∈ part, ∀ n, EndsAt actions e n → n ≤ m := by
  induction part with
  | nil => exact ⟨0, .inl rfl, List.forall_mem_nil _⟩
  | cons e part ih =>
    obtain ⟨here, rest⟩ := List.forall_mem_cons.1 known
    obtain ⟨m, attained, bound⟩ := ih rest
    obtain ⟨_, n, _, ends_n, _⟩ := h.ended e here
    by_cases le : n ≤ m
    · refine ⟨m, attained.imp_right ?_, List.forall_mem_cons.2 ⟨?_, bound⟩⟩
      · rintro ⟨f, mem, ends_m⟩
        exact ⟨f, List.mem_cons_of_mem _ mem, ends_m⟩
      · intro k ends_k
        rw [ends_k.unique ends_n]
        exact le
    · refine ⟨n, .inr ⟨e, List.mem_cons_self, ends_n⟩, List.forall_mem_cons.2 ⟨?_, ?_⟩⟩
      · intro k ends_k
        exact Nat.le_of_eq (ends_k.unique ends_n)
      · intro f mem k ends_k
        have := bound f mem k ends_k
        omega

theorem le_last (h : Complete actions ends) (bound : ∀ e ∈ actions.entries, ∀ n, EndsAt actions e n → n ≤ m)
    (mem : n ∈ spans actions) : n ≤ m := by
  rcases mem with ⟨c, chain, rfl⟩ | ⟨e, known, never, rfl⟩
  · rcases List.eq_nil_or_concat' c with rfl | ⟨c, e, rfl⟩
    · simp [span]
    · have last : e ∈ c ++ [e] := List.mem_append_right _ List.mem_cons_self
      obtain ⟨_, k, _, ends_k, _⟩ := h.ended e (chain.known e last)
      have below := bound e (chain.known e last) k ends_k
      rcases ends_k with ⟨_, greatest⟩ | ⟨never, _⟩
      · exact Nat.le_trans (greatest.2 ⟨c, e, rfl, chain, rfl⟩) below
      · exact (never (chain.resolvable e last)).elim
  · exact bound e known _ (.inr ⟨never, rfl⟩)

end Complete

theorem foldl_max (ds : List Duration) (d : Duration) :
    d.nanos ≤ (ds.foldl max d).nanos ∧ (∀ e ∈ ds, e.nanos ≤ (ds.foldl max d).nanos) ∧
      (ds.foldl max d = d ∨ ds.foldl max d ∈ ds) := by
  induction ds generalizing d with
  | nil => exact ⟨Nat.le_refl _, List.forall_mem_nil _, .inl rfl⟩
  | cons e ds ih =>
    obtain ⟨first, rest, attained⟩ := ih (max d e)
    rw [Duration.nanos_max] at first
    rw [List.foldl_cons]
    refine ⟨by omega, List.forall_mem_cons.2 ⟨by omega, rest⟩, ?_⟩
    rcases attained with same | mem
    · rw [same]
      change (if d ≤ e then e else d) = d ∨ (if d ≤ e then e else d) ∈ e :: ds
      split
      · exact .inr List.mem_cons_self
      · exact .inl rfl
    · exact .inr (List.mem_cons_of_mem _ mem)

theorem Complete.exists_longest (h : Complete actions ends) : ∃ m, IsGreatest (spans actions) m ∧
    (ends.values.foldl max .zero).nanos = min m Duration.longest.nanos := by
  obtain ⟨m, attained, bound⟩ := h.exists_last fun _ mem => mem
  obtain ⟨_, above, value⟩ := foldl_max ends.values .zero
  refine ⟨m, ⟨?_, fun n mem => h.le_last bound mem⟩, Nat.le_antisymm ?_ ?_⟩
  · rcases attained with rfl | ⟨e, known, ends_m⟩
    · exact .inl ⟨[], .nil, rfl⟩
    · exact ends_m.mem_spans known
  · rcases value with zero | mem
    · rw [zero]
      exact Nat.zero_le _
    · obtain ⟨⟨name, d⟩, entry, same⟩ := List.mem_map.1 mem
      have found := Dictionary.get?_eq_some_iff.2 entry
      obtain ⟨a, known⟩ := h.known name d found
      have known := Dictionary.get?_eq_some_iff.1 known
      obtain ⟨d', n, found', ends_n, exact_d⟩ := h.ended (name, a) known
      cases found.symm.trans found'
      have below := bound _ known n ends_n
      rw [← same, exact_d]
      omega
  · rcases attained with rfl | ⟨e, known, ends_m⟩
    · omega
    · obtain ⟨d, n, found, ends_n, exact_d⟩ := h.ended e known
      rw [← ends_n.unique ends_m, ← exact_d]
      apply above
      exact List.mem_map.2 ⟨(e.1, d), Dictionary.get?_eq_some_iff.1 found, rfl⟩

end Ends

/-- However its actions are settled, a template comes to the same end times, in as many passes as it has
actions at most, and the latest of them is the length of the longest chain. -/
theorem total_is_longest_chain (actions : TemplateActions) :
    settleWithin actions.size .empty actions.entries = some actions.endTimes ∧
    Settling .empty actions.entries actions.endTimes ∧
    (∀ out, Settling .empty actions.entries out → out = actions.endTimes) ∧
    ∃ m, IsGreatest (spans actions) m ∧
      actions.totalDuration.nanos = min Duration.longest.nanos m := by
  have settling := settling_settle .empty actions.entries
  have complete := complete_of_settling settling .begun
  refine ⟨settleWithin_eq (Nat.le_refl _), settling, ?_, ?_⟩
  · intro out other
    exact (complete_of_settling other .begun).unique complete
  · obtain ⟨m, greatest, exact_total⟩ := complete.exists_longest
    refine ⟨m, greatest, ?_⟩
    rw [Nat.min_comm]
    exact exact_total

end Fis

end GameDay
