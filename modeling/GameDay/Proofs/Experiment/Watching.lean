import GameDay.Proofs.Experiment.Horizon
import Mathlib.Algebra.Order.Floor.Div
import Mathlib.Data.List.Nodup

namespace GameDay

namespace Session

variable {W S : Type} (session : Session W S) (id : Uuid)

inductive Asks (h : Handle) : RunState W → SkillStatus → RunState W → Prop
  | unconnected {s s' : RunState W} {l : Launch} {e : Error} (aimed : s.launch? h.id = some l)
      (connected : session.connect (.poll h) l s = (.error e, s')) : Asks h s .running s'
  | unanswered {s s₁ s' : RunState W} {l : Launch} {skill : Skill W S} {shared : S} {e : Error}
      (aimed : s.launch? h.id = some l) (known : session.agent.skill? h.skill = some skill)
      (connected : session.connect (.poll h) l s = (.ok shared, s₁))
      (asked : s₁.call (skill.status ⟨shared, l.target, l.params⟩ h)
        (.poll skill.descriptor.name l.target l.params h ·) = (.error e, s')) : Asks h s .running s'
  | answered {s s₁ s' : RunState W} {l : Launch} {skill : Skill W S} {shared : S} {status : SkillStatus}
      (aimed : s.launch? h.id = some l) (known : session.agent.skill? h.skill = some skill)
      (connected : session.connect (.poll h) l s = (.ok shared, s₁))
      (asked : s₁.call (skill.status ⟨shared, l.target, l.params⟩ h)
        (.poll skill.descriptor.name l.target l.params h ·) = (.ok status, s')) : Asks h s status s'

def tell (h : Handle) : SkillStatus → RunState W → RunState W
  | .running, s => s
  | .completed, s => session.emit id (.skillFinished h.skill h.target none) s
  | .failed reason, s => session.emit id (.skillFinished h.skill h.target (some reason)) s

inductive Turns : RunState W → List (Handle × SkillStatus) → RunState W → Prop
  | nil (s : RunState W) : Turns s [] s
  | cons {s s₁ s' : RunState W} {h : Handle} {status : SkillStatus} {turns : List (Handle × SkillStatus)}
      (asks : session.Asks h s status s₁) (rest : Turns (session.tell id h status s₁) turns s') :
      Turns s ((h, status) :: turns) s'

def completed (turns : List (Handle × SkillStatus)) : List Uuid :=
  (turns.filter fun t => t.2 = .completed).map (·.1.id)

def Unfailed (turns : List (Handle × SkillStatus)) : Prop := ∀ t ∈ turns, ∀ reason, t.2 ≠ .failed reason

def waiting (log : RollbackLog) (done : List Uuid) : List Handle := log.filter fun h => h.id ∉ done

/-- A round: the instant slept to, the state after that, the actions turned to, and the state at the end. -/
structure Round (W : Type) where
  due : Instant
  woken : RunState W
  turns : List (Handle × SkillStatus)
  after : RunState W

structure Round.Follows (deadline : Instant) (done : List Uuid) (s : RunState W) (r : Round W) : Prop where
  early : s.now.nanos < deadline.nanos
  due : r.due = min (s.now.after session.settings.statusInterval) deadline
  woken : r.woken = s.sleepUntil session.timer session.agent.sleep r.due
  turns : session.Turns id r.woken r.turns r.after
  asked : r.turns.map Prod.fst <+: waiting s.log done
  all : Unfailed r.turns → r.turns.map Prod.fst = waiting s.log done

inductive Rounds (deadline : Instant) : List Uuid → RunState W → List (Round W) → RunState W → Prop
  | nil (done : List Uuid) (s : RunState W) : Rounds deadline done s [] s
  | cons {done : List Uuid} {s s' : RunState W} {r : Round W} {rounds : List (Round W)}
      (first : r.Follows session id deadline done s)
      (rest : Rounds deadline (completed r.turns ++ done) r.after rounds s') :
      Rounds deadline done s (r :: rounds) s'

inductive Watches (deadline : Instant) :
    List Uuid → RunState W → List (Round W) → SoakEnd → RunState W → Prop
  | late {done : List Uuid} {s : RunState W} (late : deadline ≤ s.now) : Watches deadline done s [] .over s
  | failed {done : List Uuid} {s : RunState W} {r : Round W} {before : List (Handle × SkillStatus)}
      {h : Handle} {reason : String} (follows : r.Follows session id deadline done s)
      (unfailed : Unfailed before) (fails : r.turns = before ++ [(h, .failed reason)]) :
      Watches deadline done s [r] (.failed (failureText (h, reason))) r.after
  | complete {done : List Uuid} {s : RunState W} {r : Round W} (follows : r.Follows session id deadline done s)
      (unfailed : Unfailed r.turns) (all : ∀ h ∈ s.log, h.id ∈ completed r.turns ++ done) :
      Watches deadline done s [r] .over r.after
  | later {done : List Uuid} {s s' : RunState W} {r : Round W} {rounds : List (Round W)} {ending : SoakEnd}
      (follows : r.Follows session id deadline done s) (unfailed : Unfailed r.turns)
      (some : ¬ ∀ h ∈ s.log, h.id ∈ completed r.turns ++ done)
      (rest : Watches deadline (completed r.turns ++ done) r.after rounds ending s') :
      Watches deadline done s (r :: rounds) ending s'

structure Watched (d : Duration) (s : RunState W) (rounds : List (Round W)) (ending : SoakEnd)
    (s' : RunState W) : Prop where
  follow : session.Rounds id (s.now.after d) [] s rounds s'
  slept : ∀ r ∈ rounds, r.due.nanos ≤ s.now.nanos + d.nanos ∧ r.woken.now = session.timer.wake r.due
  few : rounds.length ≤ d.nanos ⌈/⌉ session.settings.statusInterval.nanos
  dismissed : (rounds.flatMap Round.turns).Pairwise fun t u => t.2 = .completed → u.1.id ≠ t.1.id
  outcome : (Unfailed (rounds.flatMap Round.turns) ∧ ending = .over) ∨ ∃ before h reason,
    rounds.flatMap Round.turns = before ++ [(h, .failed reason)] ∧ Unfailed before ∧
      ending = .failed (failureText (h, reason))
  /-- There is no round after the first by which all have completed. -/
  first : ∀ earlier later, rounds = earlier ++ later → earlier ≠ [] →
    (∀ h ∈ s.log, h.id ∈ completed (earlier.flatMap Round.turns)) → later = []
  lasting : ending = .over →
    (rounds ≠ [] ∧ ∀ h ∈ s.log, h.id ∈ completed (rounds.flatMap Round.turns)) ∨
      s.now.nanos + d.nanos ≤ s'.now.nanos
  /-- The rounds keep to their schedule if the calls take no time and the timer is never late for it. -/
  punctual : (∀ r ∈ rounds, r.after.now = r.woken.now) →
    (∀ k, session.timer.wake ⟨s.now.nanos + min ((k + 1) * session.settings.statusInterval.nanos) d.nanos⟩ =
      ⟨s.now.nanos + min ((k + 1) * session.settings.statusInterval.nanos) d.nanos⟩) →
    ∀ k r, rounds[k]? = some r →
      r.woken.now.nanos = s.now.nanos + min ((k + 1) * session.settings.statusInterval.nanos) d.nanos

section Turning

variable {session : Session W S} {id : Uuid} {s s' : RunState W} {h : Handle} {status : SkillStatus}
  {turns : List (Handle × SkillStatus)}

@[simp] theorem ledger_tell : (session.tell id h status s).ledger = s.ledger := by
  cases status <;> simp [tell]

@[simp] theorem now_tell : (session.tell id h status s).now = s.now := by
  cases status <;> simp [tell]

theorem launch?_of_ledger (kept : s'.ledger = s.ledger) (i : Uuid) : s'.launch? i = s.launch? i := by
  unfold RunState.launch?
  rw [show s'.launches = s.launches from congrArg Ledger.launches kept]

theorem asks_of_poll (known : (session.agent.skill? h.skill).isSome) (aimed : (s.launch? h.id).isSome)
    (hp : session.poll h s = (status, s')) : session.Asks h s status s' := by
  obtain ⟨skill, known⟩ := Option.isSome_iff_exists.1 known
  obtain ⟨l, aimed⟩ := Option.isSome_iff_exists.1 aimed
  simp only [poll, known, aimed] at hp
  split at hp
  · rename_i connected
    cases hp
    exact .unconnected aimed connected
  · rename_i connected
    split at hp
    · rename_i asked
      cases hp
      exact .answered aimed known connected asked
    · rename_i asked
      cases hp
      exact .unanswered aimed known connected asked

theorem Asks.ledger (asks : session.Asks h s status s') : s'.ledger = s.ledger := by
  cases asks with
  | unconnected _ connected => exact (RunState.called connected).ledger
  | unanswered _ _ connected asked | answered _ _ connected asked =>
    exact (RunState.called asked).ledger.trans (RunState.called connected).ledger

theorem Turns.ledger (h : session.Turns id s turns s') : s'.ledger = s.ledger := by
  induction h with
  | nil => rfl
  | cons asks _ ih => exact ih.trans (ledger_tell.trans asks.ledger)

theorem completed_append (turns turns' : List (Handle × SkillStatus)) :
    completed (turns ++ turns') = completed turns ++ completed turns' := by
  simp [completed]

def RoundOver (asked : List Handle) (finished : List Uuid) (turns : List (Handle × SkillStatus))
    (result : Except String (List Uuid)) : Prop :=
  (Unfailed turns ∧ turns.map Prod.fst = asked ∧ result = .ok ((completed turns).reverse ++ finished)) ∨
    ∃ before h reason, Unfailed before ∧ turns = before ++ [(h, .failed reason)] ∧
      turns.map Prod.fst <+: asked ∧ result = .error (failureText (h, reason))

theorem RoundOver.cons {asked : List Handle} {finished : List Uuid} {result : Except String (List Uuid)}
    (ended : RoundOver asked ((completed [(h, status)]).reverse ++ finished) turns result)
    (still : ∀ reason, status ≠ .failed reason) :
    RoundOver (h :: asked) finished ((h, status) :: turns) result := by
  rcases ended with ⟨unfailed, rfl, rfl⟩ | ⟨before, g, reason, unfailed, rfl, first, rfl⟩
  · refine .inl ⟨List.forall_mem_cons.2 ⟨still, unfailed⟩, rfl, ?_⟩
    have first := completed_append [(h, status)] turns
    rw [List.singleton_append] at first
    rw [first, List.reverse_append, List.append_assoc]
  · refine .inr ⟨(h, status) :: before, g, reason, List.forall_mem_cons.2 ⟨still, unfailed⟩, rfl, ?_, rfl⟩
    exact List.cons_prefix_cons.2 ⟨rfl, first⟩

theorem RoundOver.asked {asked : List Handle} {finished : List Uuid} {result : Except String (List Uuid)}
    (ended : RoundOver asked finished turns result) :
    turns.map Prod.fst <+: asked ∧ (Unfailed turns → turns.map Prod.fst = asked) := by
  rcases ended with ⟨_, all, _⟩ | ⟨before, g, reason, _, rfl, first, _⟩
  · exact ⟨all ▸ List.prefix_refl _, fun _ => all⟩
  · refine ⟨first, fun unfailed => ?_⟩
    exact (unfailed _ (List.mem_append_right _ List.mem_cons_self) reason rfl).elim

theorem turns_of_pollRound {handles : List Handle} {finished done : List Uuid}
    {result : Except String (List Uuid)} (distinct : (handles.map (·.id)).Nodup)
    (known : ∀ h ∈ handles, (session.agent.skill? h.skill).isSome ∧ (s.launch? h.id).isSome)
    (same : ∀ h ∈ handles, h.id ∈ finished ↔ h.id ∈ done)
    (hr : session.pollRound id handles finished s = (result, s')) :
    ∃ turns, session.Turns id s turns s' ∧
      RoundOver (handles.filter fun h => h.id ∉ done) finished turns result := by
  induction handles generalizing finished s with
  | nil =>
    cases hr
    exact ⟨[], .nil _, .inl ⟨List.forall_mem_nil _, rfl, rfl⟩⟩
  | cons h handles ih =>
    obtain ⟨first, distinct⟩ := List.nodup_cons.1 distinct
    obtain ⟨⟨known_h, aimed_h⟩, known⟩ := List.forall_mem_cons.1 known
    obtain ⟨same_h, same⟩ := List.forall_mem_cons.1 same
    unfold pollRound at hr
    by_cases ended : h.id ∈ finished
    · rw [if_pos ended] at hr
      rw [List.filter_cons_of_neg (by simpa using same_h.1 ended)]
      exact ih distinct known same hr
    · have waits : h.id ∉ done := fun mem => ended (same_h.2 mem)
      rw [if_neg ended] at hr
      rw [List.filter_cons_of_pos (by simpa using waits)]
      obtain ⟨status, s₁, hp⟩ : ∃ status s₁, session.poll h s = (status, s₁) := ⟨_, _, rfl⟩
      have asks := asks_of_poll known_h aimed_h hp
      have kept : (session.tell id h status s₁).ledger = s.ledger := ledger_tell.trans asks.ledger
      simp only [← launch?_of_ledger kept] at known
      rw [hp] at hr
      cases status with
      | running =>
        obtain ⟨turns, rest, ended⟩ := ih distinct known same hr
        exact ⟨_, .cons asks rest, ended.cons fun _ => SkillStatus.noConfusion⟩
      | completed =>
        -- those turned to later in the round have other ids
        have same_later : ∀ g ∈ handles, g.id ∈ h.id :: finished ↔ g.id ∈ done := by
          intro g mem
          have other : g.id ≠ h.id := fun eq => first (List.mem_map.2 ⟨g, mem, eq⟩)
          rw [List.mem_cons, or_iff_right other]
          exact same g mem
        obtain ⟨turns, rest, ended⟩ := ih distinct known same_later hr
        exact ⟨_, .cons asks rest, ended.cons fun _ => SkillStatus.noConfusion⟩
      | failed reason =>
        cases hr
        refine ⟨_, .cons asks (.nil _), .inr ⟨[], h, reason, List.forall_mem_nil _, rfl, ?_, rfl⟩⟩
        exact List.prefix_append [h] _

theorem completed_sublist (turns : List (Handle × SkillStatus)) :
    (completed turns).Sublist ((turns.map Prod.fst).map (·.id)) := by
  rw [List.map_map]
  exact List.filter_sublist.map _

theorem mem_waiting_ids {log : RollbackLog} {done : List Uuid} {i : Uuid}
    (mem : i ∈ (waiting log done).map (·.id)) : i ∉ done := by
  obtain ⟨h, waits, rfl⟩ := List.mem_map.1 mem
  simpa using (List.mem_filter.1 waits).2

theorem waiting_ids_sublist (log : RollbackLog) (done : List Uuid) :
    ((waiting log done).map (·.id)).Sublist (log.map (·.id)) :=
  List.filter_sublist.map _

theorem now_le_of_call {α : Type} {f : W → Reply W α} {step : Except Error α → Step} {a : Except Error α}
    (h : s.call f step = (a, s')) : s.now.nanos ≤ s'.now.nanos := by
  have le := s.now_le_call f step
  rwa [h] at le

theorem Asks.now_le (asks : session.Asks h s status s') : s.now.nanos ≤ s'.now.nanos := by
  cases asks with
  | unconnected _ connected => exact now_le_of_call connected
  | unanswered _ _ connected asked | answered _ _ connected asked =>
    exact Nat.le_trans (now_le_of_call connected) (now_le_of_call asked)

theorem Turns.now_le (h : session.Turns id s turns s') : s.now.nanos ≤ s'.now.nanos := by
  induction h with
  | nil => exact Nat.le_refl _
  | cons asks _ ih =>
    rw [now_tell] at ih
    exact Nat.le_trans asks.now_le ih

end Turning

section Watching

variable {session : Session W S} {id : Uuid} {deadline : Instant} {done : List Uuid} {s s' : RunState W}
  {ending : SoakEnd} {rounds : List (Round W)} {r : Round W}

theorem ledger_sleepUntil (t : Instant) :
    (s.sleepUntil session.timer session.agent.sleep t).ledger = s.ledger := rfl

namespace Round.Follows

variable (follows : r.Follows session id deadline done s)
include follows

theorem ledger : r.after.ledger = s.ledger := by
  rw [follows.turns.ledger, follows.woken, ledger_sleepUntil]

theorem due_nanos : r.due.nanos = min (s.now.nanos + session.settings.statusInterval.nanos) deadline.nanos := by
  rw [follows.due, Instant.nanos_min]
  rfl

theorem now_woken (timed : 0 < session.settings.statusInterval.nanos) :
    r.woken.now = session.timer.wake r.due := by
  have early := follows.early
  have ahead : ¬ r.due ≤ s.now := by
    rw [Instant.le_iff, follows.due_nanos]
    omega
  rw [follows.woken]
  exact if_neg ahead

theorem due_le_after (timed : 0 < session.settings.statusInterval.nanos) : r.due.nanos ≤ r.after.now.nanos := by
  have woken := session.timer.le_wake r.due
  rw [← follows.now_woken timed] at woken
  exact Nat.le_trans woken follows.turns.now_le

theorem ids_sublist : ((r.turns.map Prod.fst).map (·.id)).Sublist (s.log.map (·.id)) :=
  (follows.asked.sublist.map _).trans (waiting_ids_sublist s.log done)

theorem fresh : ∀ t ∈ r.turns, t.1.id ∉ done := by
  intro t mem
  have asked : t.1.id ∈ (waiting s.log done).map (·.id) :=
    List.mem_map_of_mem (follows.asked.subset (List.mem_map_of_mem mem))
  exact mem_waiting_ids asked

end Round.Follows

/-- Those that count as finished are those that have completed, each of them once. -/
structure Tally (log : RollbackLog) (finished done : List Uuid) : Prop where
  same : ∀ i, i ∈ finished ↔ i ∈ done
  once : finished.Nodup
  launched : finished ⊆ log.map (·.id)

theorem Tally.start (log : RollbackLog) : Tally log [] [] :=
  ⟨fun _ => Iff.rfl, List.nodup_nil, List.nil_subset _⟩

theorem Tally.next {finished : List Uuid} (tally : Tally s.log finished done)
    (distinct : (s.log.map (·.id)).Nodup) (follows : r.Follows session id deadline done s) :
    Tally s.log ((completed r.turns).reverse ++ finished) (completed r.turns ++ done) := by
  have sub := completed_sublist r.turns
  constructor
  · intro i
    rw [List.mem_append, List.mem_append, List.mem_reverse, tally.same i]
  · apply List.nodup_append.2
    refine ⟨List.nodup_reverse.2 (distinct.sublist (sub.trans follows.ids_sublist)), tally.once, ?_⟩
    rintro i mem _ mem' rfl
    have waits := (sub.trans (follows.asked.sublist.map _)).subset (List.mem_reverse.1 mem)
    exact mem_waiting_ids waits ((tally.same i).1 mem')
  · apply List.append_subset.2
    refine ⟨?_, tally.launched⟩
    intro i mem
    exact (sub.trans follows.ids_sublist).subset (List.mem_reverse.1 mem)

theorem Tally.length_eq_iff {log : RollbackLog} {finished : List Uuid} (tally : Tally log finished done)
    (distinct : (log.map (·.id)).Nodup) : finished.length = log.length ↔ ∀ h ∈ log, h.id ∈ done := by
  have few := tally.once.subperm tally.launched
  simp only [← tally.same]
  constructor
  · intro length h mem
    have all := few.perm_of_length_le (by simp [length])
    exact all.mem_iff.2 (List.mem_map_of_mem mem)
  · intro all
    have sub : log.map (·.id) ⊆ finished := by
      intro i mem
      obtain ⟨h, launched, rfl⟩ := List.mem_map.1 mem
      exact all h launched
    have most := few.length_le
    have least := (distinct.subperm sub).length_le
    rw [List.length_map] at most least
    exact Nat.le_antisymm most least

theorem exists_round {finished : List Uuid} {woken after : RunState W} {result : Except String (List Uuid)}
    (distinct : (s.log.map (·.id)).Nodup)
    (known : ∀ h ∈ s.log, (session.agent.skill? h.skill).isSome ∧ (s.launch? h.id).isSome)
    (same : ∀ i, i ∈ finished ↔ i ∈ done) (early : s.now.nanos < deadline.nanos)
    (slept : s.sleepUntil session.timer session.agent.sleep
      (min (s.now.after session.settings.statusInterval) deadline) = woken)
    (round : session.pollRound id woken.log finished woken = (result, after)) :
    ∃ r : Round W, r.after = after ∧ r.Follows session id deadline done s ∧
      RoundOver (waiting s.log done) finished r.turns result := by
  have kept : woken.ledger = s.ledger := by
    rw [← slept, ledger_sleepUntil]
  simp only [← launch?_of_ledger kept] at known
  rw [show woken.log = s.log from congrArg Ledger.log kept] at round
  obtain ⟨turns, turned, rest⟩ := turns_of_pollRound distinct known (fun h _ => same h.id) round
  exact ⟨⟨_, woken, turns, after⟩, rfl, ⟨early, rfl, slept.symm, turned, rest.asked.1, rest.asked.2⟩, rest⟩

theorem watches_of_pollUntil {fuel : Nat} {finished : List Uuid} (distinct : (s.log.map (·.id)).Nodup)
    (known : ∀ h ∈ s.log, (session.agent.skill? h.skill).isSome ∧ (s.launch? h.id).isSome)
    (tally : Tally s.log finished done) (counts : ending ≠ .aborted .clockOverflow)
    (ends : ending ≠ .aborted .endless)
    (h : session.pollUntil id deadline fuel finished s = (ending, s')) :
    ∃ rounds, session.Watches id deadline done s rounds ending s' := by
  induction fuel generalizing finished done s with
  | zero =>
    unfold pollUntil at h
    split at h
    · rename_i late
      cases h
      exact ⟨[], .late late⟩
    · cases h
      exact (ends rfl).elim
  | succ fuel ih =>
    unfold pollUntil at h
    split at h
    · rename_i late
      cases h
      exact ⟨[], .late late⟩
    · rename_i early
      rw [Instant.le_iff, Nat.not_le] at early
      split at h
      · cases h
        exact (counts rfl).elim
      · rename_i wake ahead
        obtain ⟨-, rfl⟩ := Instant.add?_eq_some_iff.1 ahead
        simp only at h
        generalize round : session.pollRound id _ finished _ = polled at h
        obtain ⟨result, after⟩ := polled
        obtain ⟨r, rfl, follows, ended⟩ := exists_round distinct known tally.same early rfl round
        rcases ended with ⟨unfailed, _, rfl⟩ | ⟨before, g, reason, unfailed, fails, _, rfl⟩
        · have next := tally.next distinct follows
          have log : r.after.log = s.log := congrArg Ledger.log follows.ledger
          simp only at h
          rw [log] at h
          split at h
          · rename_i complete
            cases h
            exact ⟨[r], .complete follows unfailed ((next.length_eq_iff distinct).1 complete)⟩
          · rename_i some
            rw [next.length_eq_iff distinct] at some
            simp only [← launch?_of_ledger follows.ledger] at known
            rw [← log] at distinct known next
            obtain ⟨rounds, later⟩ := ih distinct known next h
            exact ⟨r :: rounds, .later follows unfailed some later⟩
        · cases h
          exact ⟨[r], .failed follows unfailed fails⟩

namespace Rounds

variable (h : session.Rounds id deadline done s rounds s')
include h

theorem slept (timed : 0 < session.settings.statusInterval.nanos) : ∀ r ∈ rounds,
    r.due.nanos ≤ deadline.nanos ∧ r.woken.now = session.timer.wake r.due := by
  induction h with
  | nil => exact List.forall_mem_nil _
  | cons first _ ih =>
    refine List.forall_mem_cons.2 ⟨⟨?_, first.now_woken timed⟩, ih⟩
    rw [first.due_nanos]
    exact Nat.min_le_right _ _

theorem length_lt (timed : 0 < session.settings.statusInterval.nanos) : rounds = [] ∨
    (s.now.nanos < deadline.nanos ∧ rounds.length * session.settings.statusInterval.nanos <
      deadline.nanos - s.now.nanos + session.settings.statusInterval.nanos) := by
  induction h with
  | nil => exact .inl rfl
  | @cons _ _ _ r rounds first _ ih =>
    have early := first.early
    have passed := first.due_le_after timed
    rw [first.due_nanos] at passed
    refine .inr ⟨early, ?_⟩
    rw [List.length_cons, Nat.succ_mul]
    rcases ih with rfl | ⟨later, few⟩
    · rw [List.length_nil]
      omega
    · omega

theorem length_le (timed : 0 < session.settings.statusInterval.nanos) :
    rounds.length ≤ (deadline.nanos - s.now.nanos) ⌈/⌉ session.settings.statusInterval.nanos := by
  rw [Nat.ceilDiv_eq_add_pred_div, Nat.le_div_iff_mul_le timed]
  rcases h.length_lt timed with rfl | ⟨_, few⟩
  · rw [List.length_nil]
    omega
  · omega

theorem dismissed (distinct : (s.log.map (·.id)).Nodup) :
    (rounds.flatMap Round.turns).Pairwise (fun t u => t.2 = .completed → u.1.id ≠ t.1.id) ∧
      ∀ t ∈ rounds.flatMap Round.turns, t.1.id ∉ done := by
  induction h with
  | nil => exact ⟨.nil, List.forall_mem_nil _⟩
  | @cons done s _ r rounds first _ ih =>
    have log : r.after.log = s.log := congrArg Ledger.log first.ledger
    rw [← log] at distinct
    obtain ⟨pairs, fresh⟩ := ih distinct
    rw [log] at distinct
    have once : r.turns.Pairwise fun t u => t.1.id ≠ u.1.id := by
      have ids := distinct.sublist first.ids_sublist
      rw [List.map_map] at ids
      exact List.pairwise_map.1 ids
    rw [List.flatMap_cons]
    constructor
    · apply List.pairwise_append.2
      refine ⟨once.imp fun other _ => other.symm, pairs, ?_⟩
      intro t mem u later completes same
      apply fresh u later
      rw [same]
      exact List.mem_append_left _ (List.mem_map_of_mem (List.mem_filter.2 ⟨mem, by simpa using completes⟩))
    · intro t mem
      rcases List.mem_append.1 mem with mem | mem
      · exact first.fresh t mem
      · exact fun ended => fresh t mem (List.mem_append_right _ ended)

theorem punctual (timed : 0 < session.settings.statusInterval.nanos)
    (instant : ∀ r ∈ rounds, r.after.now = r.woken.now)
    (never_late : ∀ k, session.timer.wake
      ⟨min (s.now.nanos + (k + 1) * session.settings.statusInterval.nanos) deadline.nanos⟩ =
        ⟨min (s.now.nanos + (k + 1) * session.settings.statusInterval.nanos) deadline.nanos⟩) :
    ∀ k r, rounds[k]? = some r → r.woken.now.nanos =
      min (s.now.nanos + (k + 1) * session.settings.statusInterval.nanos) deadline.nanos := by
  induction h with
  | nil => intro k r here; cases here
  | @cons done s _ r rounds first _ ih =>
    obtain ⟨now, instant⟩ := List.forall_mem_cons.1 instant
    have due : r.due = ⟨min (s.now.nanos + session.settings.statusInterval.nanos) deadline.nanos⟩ := by
      rw [← first.due_nanos]
    have woken : r.woken.now = r.due := by
      have exactly := never_late 0
      rw [Nat.zero_add, Nat.one_mul, ← due] at exactly
      rw [first.now_woken timed, exactly]
    have next : ∀ k, min (r.after.now.nanos + (k + 1) * session.settings.statusInterval.nanos)
        deadline.nanos =
          min (s.now.nanos + (k + 1 + 1) * session.settings.statusInterval.nanos) deadline.nanos := by
      intro k
      rw [now, woken, due, Nat.succ_mul (k + 1)]
      simp only
      omega
    intro k r' here
    cases k with
    | zero =>
      cases here
      rw [woken, due, Nat.zero_add, Nat.one_mul]
    | succ k =>
      rw [ih instant (fun k => by rw [next]; exact never_late (k + 1)) k r' here, next]

end Rounds

namespace Watches

variable (h : session.Watches id deadline done s rounds ending s')
include h

theorem follow : session.Rounds id deadline done s rounds s' := by
  induction h with
  | late => exact .nil _ _
  | failed follows | complete follows => exact .cons follows (.nil _ _)
  | later follows _ _ _ ih => exact .cons follows ih

theorem outcome : (Unfailed (rounds.flatMap Round.turns) ∧ ending = .over) ∨ ∃ before h reason,
    rounds.flatMap Round.turns = before ++ [(h, .failed reason)] ∧ Unfailed before ∧
      ending = .failed (failureText (h, reason)) := by
  induction h with
  | late => exact .inl ⟨List.forall_mem_nil _, rfl⟩
  | failed _ unfailed fails =>
    rw [List.flatMap_singleton, fails]
    exact .inr ⟨_, _, _, rfl, unfailed, rfl⟩
  | complete _ unfailed _ =>
    rw [List.flatMap_singleton]
    exact .inl ⟨unfailed, rfl⟩
  | later _ unfailed _ _ ih =>
    rw [List.flatMap_cons]
    rcases ih with ⟨rest, ended⟩ | ⟨before, g, reason, fails, rest, failed⟩
    · exact .inl ⟨List.forall_mem_append.2 ⟨unfailed, rest⟩, ended⟩
    · refine .inr ⟨_, g, reason, ?_, List.forall_mem_append.2 ⟨unfailed, rest⟩, failed⟩
      rw [fails, List.append_assoc]

theorem first : ∀ earlier later, rounds = earlier ++ later → earlier ≠ [] →
    (∀ h ∈ s.log, h.id ∈ completed (earlier.flatMap Round.turns) ++ done) → later = [] := by
  induction h with
  | late =>
    intro earlier later cut some
    exact (some (List.append_eq_nil_iff.1 cut.symm).1).elim
  | failed | complete =>
    intro earlier later cut some _
    rcases List.cons_eq_append_iff.1 cut with ⟨none, _⟩ | ⟨_, _, rest⟩
    · exact (some none).elim
    · exact (List.append_eq_nil_iff.1 rest.symm).2
  | @later _ _ _ r _ _ follows _ unfinished _ ih =>
    intro earlier later cut some all
    have log : r.after.log = _ := congrArg Ledger.log follows.ledger
    rcases List.cons_eq_append_iff.1 cut with ⟨none, _⟩ | ⟨earlier, rfl, rest⟩
    · exact (some none).elim
    · by_cases none : earlier = []
      · subst none
        rw [List.flatMap_singleton] at all
        exact (unfinished all).elim
      · apply ih earlier later rest none
        rw [log]
        intro g mem
        have ended := all g mem
        rw [List.flatMap_cons, completed_append] at ended
        simp only [List.mem_append] at ended ⊢
        rcases ended with (ended | ended) | ended
        · exact .inr (.inl ended)
        · exact .inl ended
        · exact .inr (.inr ended)

theorem lasting (finished : ending = .over) :
    (rounds ≠ [] ∧ ∀ h ∈ s.log, h.id ∈ completed (rounds.flatMap Round.turns) ++ done) ∨
      deadline.nanos ≤ s'.now.nanos := by
  induction h with
  | late late => exact .inr late
  | failed => cases finished
  | complete _ _ all =>
    refine .inl ⟨List.cons_ne_nil _ _, ?_⟩
    rwa [List.flatMap_singleton]
  | @later _ _ _ r _ _ follows _ _ _ ih =>
    have log : r.after.log = _ := congrArg Ledger.log follows.ledger
    rcases ih finished with ⟨_, all⟩ | late
    · refine .inl ⟨List.cons_ne_nil _ _, ?_⟩
      rw [log] at all
      intro g mem
      have ended := all g mem
      rw [List.flatMap_cons, completed_append]
      simp only [List.mem_append] at ended ⊢
      rcases ended with ended | ended | ended
      · exact .inl (.inr ended)
      · exact .inl (.inl ended)
      · exact .inr ended
    · exact .inr late

end Watches

end Watching

/-- The second phase of a run, from when all of its actions have been launched. -/
theorem soak_watched (session : Session W S) (id : Uuid) (d : Duration) (s : RunState W)
    (timed : 0 < session.settings.statusInterval.nanos) (distinct : (s.log.map (·.id)).Nodup)
    (known : ∀ h ∈ s.log, (session.agent.skill? h.skill).isSome ∧ (s.launch? h.id).isSome)
    (counted : session.Counted id d s) : ∃ rounds,
      session.Watched id d s rounds (session.soak id d s).1 (session.soak id d s).2 := by
  have counts : (session.soak id d s).1 ≠ .aborted .clockOverflow :=
    fun overflow => soak_overflow_iff.1 overflow counted
  have ends : (session.soak id d s).1 ≠ .aborted .endless := soak_ne_endless session id d s
  obtain ⟨ending, s', soaked⟩ : ∃ ending s', session.soak id d s = (ending, s') := ⟨_, _, rfl⟩
  rw [soaked] at counts ends ⊢
  have ahead := Instant.add?_eq_some_iff.2 ⟨counted.deadline, rfl⟩
  unfold soak at soaked
  simp only [ahead] at soaked
  obtain ⟨rounds, watches⟩ := watches_of_pollUntil distinct known (.start _) counts ends soaked
  have follow := watches.follow
  have span : (s.now.after d).nanos = s.now.nanos + d.nanos := rfl
  have left (n : Nat) : min (s.now.nanos + n) (s.now.after d).nanos = s.now.nanos + min n d.nanos := by
    rw [span]
    omega
  have none (i : Uuid) (turns : List (Handle × SkillStatus)) : i ∈ completed turns ++ [] ↔ i ∈ completed turns := by
    rw [List.append_nil]
  refine ⟨rounds, follow, follow.slept timed, ?_, (follow.dismissed distinct).1, watches.outcome, ?_, ?_, ?_⟩
  · have length := follow.length_le timed
    rwa [span, Nat.add_sub_cancel_left] at length
  · have first := watches.first
    simp only [none] at first
    exact first
  · have lasting := watches.lasting
    simp only [none] at lasting
    exact lasting
  · have punctual := follow.punctual timed
    simp only [left] at punctual
    exact punctual

end Session

def embers : Session Nat Unit where
  agent := { (rehearsal 0).agent with
    skills := [{
      descriptor := ⟨"dim", "", .lambda, true⟩
      validate := fun _ => .ok ()
      execute := fun c n => ⟨.ok ⟨⟨n⟩, "dim", c.target.id, .epoch, .null⟩, .zero, n⟩
      status := fun _ h n => ⟨.ok (if h.id.value < n then .completed else .running), .zero, n⟩
      rollback := fun _ _ n => ⟨.ok (), .zero, n⟩ }]
    sleep := fun _ n => n + 1 }
  settings := ⟨⟨1400000, by decide⟩⟩
  listeners := 1
  timer := .milliseconds

def sevenMilliseconds : Duration := ⟨7000000, by decide⟩

def lit : RunState Nat where
  world := 0
  now := .zero
  log := [⟨⟨0⟩, "dim", "a", .epoch, .null⟩, ⟨⟨1⟩, "dim", "b", .epoch, .null⟩]
  launches := [(⟨1⟩, ⟨⟨"b", "B", .lambda, .empty⟩, .null⟩), (⟨0⟩, ⟨⟨"a", "A", .lambda, .empty⟩, .null⟩)]

theorem known_lit : ∀ h ∈ lit.log, (embers.agent.skill? h.skill).isSome ∧ (lit.launch? h.id).isSome := by
  decide

theorem embers_counted : embers.Counted ⟨7⟩ sevenMilliseconds lit := .of_sum_lt (by decide)

theorem embers_watched : 0 < embers.settings.statusInterval.nanos ∧ (lit.log.map (·.id)).Nodup ∧
    (embers.soak ⟨7⟩ sevenMilliseconds lit).1 = .over ∧ ∃ rounds, embers.Watched ⟨7⟩ sevenMilliseconds lit rounds
      (embers.soak ⟨7⟩ sevenMilliseconds lit).1 (embers.soak ⟨7⟩ sevenMilliseconds lit).2 :=
  ⟨by decide, by decide, by rfl,
    Session.soak_watched embers ⟨7⟩ sevenMilliseconds lit (by decide) (by decide) known_lit embers_counted⟩

/-- The first round is late if the timer does not tell when it is due. -/
theorem embers_late : ¬ ∀ (W S : Type) (session : Session W S) (id : Uuid) (d : Duration) (s : RunState W),
    0 < session.settings.statusInterval.nanos → (s.log.map (·.id)).Nodup →
    (∀ h ∈ s.log, (session.agent.skill? h.skill).isSome ∧ (s.launch? h.id).isSome) →
    (∀ t params w, (session.agent.connect t params w).took = .zero) →
    (∀ skill ∈ session.agent.skills, ∀ c h w, (skill.status c h w).took = .zero) →
    s.trace = #[] → session.Counted id d s → ∀ e ∈ (session.soak id d s).2.trace.toList,
      ∃ k, e.1.nanos = s.now.nanos + min ((k + 1) * session.settings.statusInterval.nanos) d.nanos := by
  intro always
  have scheduled := always Nat Unit embers ⟨7⟩ sevenMilliseconds lit (by decide) (by decide) known_lit
    (fun _ _ _ => rfl) (by
      intro skill mem c h w
      rw [List.mem_singleton.1 mem]) rfl embers_counted
  have first : (embers.soak ⟨7⟩ sevenMilliseconds lit).2.trace.toList.head?.map (·.1) = some ⟨2000000⟩ := by
    rfl
  obtain ⟨e, head, at_two⟩ := Option.map_eq_some_iff.1 first
  obtain ⟨k, due⟩ := scheduled e (List.mem_of_head? head)
  rw [at_two] at due
  simp only [lit, Instant.zero, embers, sevenMilliseconds] at due
  omega

end GameDay
