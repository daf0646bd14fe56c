import GameDay.Experiment.Rollback
import GameDay.Proofs.Experiment.Steps

namespace GameDay

structure Attempt where
  handle : Handle
  launch : Launch
  answer : Except Error Unit

namespace Attempt

def aim (a : Attempt) : Handle × Launch := (a.handle, a.launch)

def error? (a : Attempt) : Option String :=
  match a.answer with
  | .ok () => none
  | .error e => some (Error.rollback a.handle.skill e).message

def record (a : Attempt) (took : Duration) : RollbackRecord :=
  ⟨a.handle.skill, a.error?.isNone, took, a.error?⟩

end Attempt

namespace Session

variable {W S : Type} (session : Session W S) (id : Uuid) (launches : List (Uuid × Launch))

inductive Undoing : W → List Step → List RollbackRecord → List Attempt → W → Prop
  | nil (w : W) : Undoing w [] [] [] w
  | append {u v w : W} {a b : List Step} {q r : List RollbackRecord} {m n : List Attempt} :
      Undoing u a q m v → Undoing v b r n w → Undoing u (a ++ b) (q ++ r) (m ++ n) w
  | unconnected {u v : W} {skill : Skill W S} {h : Handle} {l : Launch} {e : Error}
      (took : Duration) (known : session.agent.skill? h.skill = some skill)
      (aimed : launches.lookup h.id = some l)
      (c : Gives (session.agent.connect l.target l.params) u (.error e) v) :
      Undoing u
        ([.connect (.rollback h) l.target l.params (.error e)] ++
          session.announcement id (.rollbackStepCompleted h.skill false))
        [Attempt.record ⟨h, l, .error e⟩ took] [⟨h, l, .error e⟩] v
  | answered {u v w : W} {skill : Skill W S} {h : Handle} {l : Launch} {shared : S}
      {a : Except Error Unit} (took : Duration)
      (known : session.agent.skill? h.skill = some skill) (aimed : launches.lookup h.id = some l)
      (c : Gives (session.agent.connect l.target l.params) u (.ok shared) v)
      (x : Gives (skill.rollback ⟨shared, l.target, l.params⟩ h) v a w) :
      Undoing u
        ([.connect (.rollback h) l.target l.params (.ok ()),
            .rollback skill.descriptor.name l.target l.params h a] ++
          session.announcement id
            (.rollbackStepCompleted h.skill (Attempt.error? ⟨h, l, a⟩).isNone))
        [Attempt.record ⟨h, l, a⟩ took] [⟨h, l, a⟩] w

def aim? (h : Handle) : Option (Handle × Launch) :=
  match session.agent.skill? h.skill, launches.lookup h.id with
  | some _, some l => some (h, l)
  | _, _ => none

variable {session id} {s s' : RunState W}

theorem undoing_rollbackStep {skill : Skill W S} {h : Handle} {l : Launch}
    {record : RollbackRecord} (known : session.agent.skill? h.skill = some skill)
    (aimed : s.launches.lookup h.id = some l)
    (hr : session.rollbackStep id skill l h s = (record, s')) :
    ∃ steps a w, session.Undoing id s.launches s.world steps [record] [a] w ∧ a.aim = (h, l) ∧
      s'.world = w ∧ s'.steps = s.steps ++ steps ∧ s'.ledger = s.ledger := by
  obtain ⟨connected, s₁, hc⟩ : ∃ connected s₁,
      session.connect (.rollback h) ⟨l.target, l.params⟩ s = (connected, s₁) := ⟨_, _, rfl⟩
  have c := session.connected hc
  simp only [rollbackStep, undo, hc] at hr
  cases connected with
  | error e =>
    cases hr
    refine ⟨_, _, _, .unconnected (s₁.now.since s.now) known aimed c.gives, rfl, by simp, ?_,
      by simp [c.ledger]⟩
    simp [c.steps, Except.map]
  | ok shared =>
    obtain ⟨answer, s₂, hx⟩ : ∃ answer s₂, s₁.call (skill.rollback ⟨shared, l.target, l.params⟩ h)
        (.rollback skill.descriptor.name l.target l.params h ·) = (answer, s₂) := ⟨_, _, rfl⟩
    have x := RunState.called hx
    simp only [hx] at hr
    cases hr
    refine ⟨_, _, _, .answered (s₂.now.since s.now) known aimed c.gives x.gives, rfl, by simp, ?_,
      by simp [x.ledger, c.ledger]⟩
    simp only [steps_emit, x.steps, c.steps, Except.map, List.append_assoc]
    rfl

theorem undoing_rollback {handles : List Handle} {records : List RollbackRecord}
    (hr : session.rollback id handles s = (records, s')) :
    ∃ steps attempts w, session.Undoing id s.launches s.world steps records attempts w ∧
      attempts.map Attempt.aim = handles.filterMap (session.aim? s.launches) ∧
      s'.world = w ∧ s'.steps = s.steps ++ steps ∧ s'.ledger = s.ledger := by
  induction handles generalizing s records with
  | nil =>
    cases hr
    exact ⟨[], [], _, .nil _, rfl, rfl, by simp, rfl⟩
  | cons h handles ih =>
    simp only [rollback] at hr
    split at hr
    · rename_i skill l known aimed
      obtain ⟨record, s₁, h₁⟩ : ∃ record s₁,
          session.rollbackStep id skill l h s = (record, s₁) := ⟨_, _, rfl⟩
      obtain ⟨more, s₂, h₂⟩ : ∃ more s₂, session.rollback id handles s₁ = (more, s₂) := ⟨_, _, rfl⟩
      simp only [h₁, h₂] at hr
      cases hr
      obtain ⟨a, m, v, u, hm, rfl, hs, hl⟩ := undoing_rollbackStep known aimed h₁
      obtain ⟨b, n, w, u', hn, rfl, hs', hl'⟩ := ih h₂
      have kept : s₁.launches = s.launches := congrArg Ledger.launches hl
      rw [kept] at u' hn
      refine ⟨a ++ b, m :: n, _, .append u u', ?_, rfl, ?_, hl'.trans hl⟩
      · have first : session.aim? s.launches h = some (h, l) := by
          simp only [aim?, known]
          rw [show s.launches.lookup h.id = some l from aimed]
        rw [List.filterMap_cons_some first, List.map_cons, hm, hn]
      · rw [hs', hs, List.append_assoc]
    · rename_i none
      obtain ⟨b, n, w, u, hn, rfl, hs, hl⟩ := ih hr
      refine ⟨b, n, _, u, ?_, rfl, hs, hl⟩
      have first : session.aim? s.launches h = .none := by
        unfold aim?
        split
        · rename_i skill l known aimed
          exact (none skill l known aimed).elim
        · rfl
      rw [hn, List.filterMap_cons_none first]

end Session

end GameDay
