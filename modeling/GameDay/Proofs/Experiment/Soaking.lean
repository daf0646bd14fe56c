import GameDay.Experiment.Soak
import GameDay.Proofs.Experiment.Steps

namespace GameDay.Session

variable {W S : Type} (session : Session W S) (id : Uuid) (launches : List (Uuid × Launch))

inductive Polled (h : Handle) : W → List Step → SkillStatus → W → Prop
  | unknown (w : W) : Polled h w [] .running w
  | unconnected {u v : W} {l : Launch} {e : Error} (aimed : launches.lookup h.id = some l)
      (c : Gives (session.agent.connect l.target l.params) u (.error e) v) :
      Polled h u [.connect (.poll h) l.target l.params (.error e)] .running v
  | unanswered {u v w : W} {skill : Skill W S} {l : Launch} {shared : S} {e : Error}
      (known : session.agent.skill? h.skill = some skill) (aimed : launches.lookup h.id = some l)
      (c : Gives (session.agent.connect l.target l.params) u (.ok shared) v)
      (x : Gives (skill.status ⟨shared, l.target, l.params⟩ h) v (.error e) w) :
      Polled h u [.connect (.poll h) l.target l.params (.ok ()),
        .poll skill.descriptor.name l.target l.params h (.error e)] .running w
  | answered {u v w : W} {skill : Skill W S} {l : Launch} {shared : S} {status : SkillStatus}
      (known : session.agent.skill? h.skill = some skill) (aimed : launches.lookup h.id = some l)
      (c : Gives (session.agent.connect l.target l.params) u (.ok shared) v)
      (x : Gives (skill.status ⟨shared, l.target, l.params⟩ h) v (.ok status) w) :
      Polled h u [.connect (.poll h) l.target l.params (.ok ()),
        .poll skill.descriptor.name l.target l.params h (.ok status)] status w

inductive Polling : W → List Step → List Handle → Option (Handle × String) → W → Prop
  | nil (w : W) : Polling w [] [] none w
  | append {u v w : W} {a b : List Step} {m n : List Handle} {f : Option (Handle × String)} :
      Polling u a m none v → Polling v b n f w → Polling u (a ++ b) (m ++ n) f w
  | slept (d : Duration) (w : W) : Polling w [] [] none (session.agent.sleep d w)
  | running {u v : W} {a : List Step} {h : Handle} :
      session.Polled launches h u a .running v → Polling u a [] none v
  | completed {u v : W} {a : List Step} {h : Handle} :
      session.Polled launches h u a .completed v →
      Polling u (a ++ session.announcement id (.skillFinished h.skill h.target none)) [h] none v
  | failed {u v : W} {a : List Step} {h : Handle} {reason : String} :
      session.Polled launches h u a (.failed reason) v →
      Polling u (a ++ session.announcement id (.skillFinished h.skill h.target (some reason))) []
        (some (h, reason)) v

def ended (completed : List Handle) (failed : Option (Handle × String)) : List Handle :=
  completed ++ failed.toList.map Prod.fst

def failureText (failed : Handle × String) : String :=
  failed.1.skill ++ " on " ++ failed.1.target ++ ": " ++ failed.2

structure Polls (handles : List Handle) (finished : List Uuid) (s s' : RunState W)
    (completed : List Handle) (failed : Option (Handle × String)) : Prop where
  polling : ∃ steps w, session.Polling id s.launches s.world steps completed failed w ∧
    s'.world = w ∧ s'.steps = s.steps ++ steps
  ledger : s'.ledger = s.ledger
  asked : ∀ h ∈ ended completed failed, h ∈ handles
  once : ((ended completed failed).map (·.id)).Nodup
  fresh : ∀ h ∈ ended completed failed, h.id ∉ finished

variable {session id} {handles : List Handle} {finished : List Uuid} {s s' : RunState W}
  {h : Handle}

namespace Polls

theorem refl (s : RunState W) : session.Polls id handles finished s s [] none :=
  ⟨⟨[], s.world, .nil _, rfl, by simp⟩, rfl, by simp [ended], by simp [ended], by simp [ended]⟩

theorem append {s'' : RunState W} {m n : List Handle} {f : Option (Handle × String)}
    (a : session.Polls id handles finished s s' m none)
    (b : session.Polls id handles ((m.map (·.id)).reverse ++ finished) s' s'' n f) :
    session.Polls id handles finished s s'' (m ++ n) f := by
  obtain ⟨steps, v, ha, rfl, hs⟩ := a.polling
  obtain ⟨steps', w, hb, rfl, hs'⟩ := b.polling
  have kept : s'.launches = s.launches := congrArg Ledger.launches a.ledger
  have split : ended (m ++ n) f = ended m none ++ ended n f := by simp [ended]
  refine ⟨⟨steps ++ steps', _, .append ha (kept ▸ hb), rfl, ?_⟩, b.ledger.trans a.ledger, ?_, ?_, ?_⟩
  · rw [hs', hs, List.append_assoc]
  · intro h hh
    rw [split, List.mem_append] at hh
    exact hh.elim (a.asked h) (b.asked h)
  -- What ended in the first part counts as finished in the second, which does not tell it again.
  · rw [split, List.map_append, List.nodup_append]
    refine ⟨a.once, b.once, ?_⟩
    intro i hi j hj hij
    obtain ⟨h, hh, rfl⟩ := List.mem_map.1 hj
    apply b.fresh h hh
    simp only [ended, Option.toList_none, List.map_nil, List.append_nil] at hi
    simp [← hij, hi]
  · intro h hh
    rw [split, List.mem_append] at hh
    rcases hh with hh | hh
    · exact a.fresh h hh
    · have := b.fresh h hh
      simp only [List.mem_append, not_or] at this
      exact this.2

theorem mono {more : List Handle} (sub : ∀ h ∈ handles, h ∈ more) {m : List Handle}
    {f : Option (Handle × String)} (p : session.Polls id handles finished s s' m f) :
    session.Polls id more finished s s' m f :=
  ⟨p.polling, p.ledger, fun h hh => sub h (p.asked h hh), p.once, p.fresh⟩

end Polls

theorem polled_poll {status : SkillStatus} (hp : session.poll h s = (status, s')) :
    ∃ steps w, session.Polled s.launches h s.world steps status w ∧ s'.world = w ∧
      s'.steps = s.steps ++ steps ∧ s'.ledger = s.ledger := by
  unfold poll at hp
  split at hp
  · rename_i skill l known aimed
    obtain ⟨connected, s₁, hc⟩ : ∃ connected s₁,
        session.connect (.poll h) ⟨l.target, l.params⟩ s = (connected, s₁) := ⟨_, _, rfl⟩
    have c := session.connected hc
    simp only [hc] at hp
    cases connected with
    | error e =>
      cases hp
      exact ⟨_, _, .unconnected aimed c.gives, rfl, c.steps, c.ledger⟩
    | ok shared =>
      obtain ⟨answer, s₂, hx⟩ : ∃ answer s₂, s₁.call (skill.status ⟨shared, l.target, l.params⟩ h)
          (.poll skill.descriptor.name l.target l.params h ·) = (answer, s₂) := ⟨_, _, rfl⟩
      have x := RunState.called hx
      simp only [hx] at hp
      have steps : s₂.steps = s.steps ++ [.connect (.poll h) l.target l.params (.ok ()),
          .poll skill.descriptor.name l.target l.params h answer] := by
        simp [x.steps, c.steps, Except.map]
      cases answer with
      | error e =>
        cases hp
        exact ⟨_, _, .unanswered known aimed c.gives x.gives, rfl, steps, x.ledger.trans c.ledger⟩
      | ok status =>
        cases hp
        exact ⟨_, _, .answered known aimed c.gives x.gives, rfl, steps, x.ledger.trans c.ledger⟩
  · cases hp
    exact ⟨[], _, .unknown _, rfl, by simp, rfl⟩

def RoundEnd (finished : List Uuid) (m : List Handle) :
    Option (Handle × String) → Except String (List Uuid) → Prop
  | none, result => result = .ok ((m.map (·.id)).reverse ++ finished)
  | some failed, result => result = .error (failureText failed)

theorem polls_pollRound {result : Except String (List Uuid)}
    (hr : session.pollRound id handles finished s = (result, s')) :
    ∃ m f, session.Polls id handles finished s s' m f ∧ RoundEnd finished m f result := by
  induction handles generalizing finished s with
  | nil =>
    cases hr
    exact ⟨[], none, .refl _, rfl⟩
  | cons h handles ih =>
    have sub : ∀ g ∈ handles, g ∈ h :: handles := fun g hg => List.mem_cons_of_mem h hg
    simp only [pollRound] at hr
    split at hr
    · obtain ⟨m, f, p, e⟩ := ih hr
      exact ⟨m, f, p.mono sub, e⟩
    · rename_i new
      obtain ⟨status, s₁, hp⟩ : ∃ status s₁, session.poll h s = (status, s₁) := ⟨_, _, rfl⟩
      obtain ⟨steps, w, p, rfl, hs, hl⟩ := polled_poll hp
      simp only [hp] at hr
      cases status with
      | running =>
        have first : session.Polls id (h :: handles) finished s s₁ [] none :=
          ⟨⟨steps, _, .running p, rfl, hs⟩, hl, by simp [ended], by simp [ended], by simp [ended]⟩
        obtain ⟨m, f, q, e⟩ := ih hr
        exact ⟨m, f, first.append (q.mono sub), e⟩
      | completed =>
        have first : session.Polls id (h :: handles) finished s
            (session.emit id (.skillFinished h.skill h.target none) s₁) [h] none :=
          ⟨⟨_, _, .completed p, by simp, by simp [hs]⟩, by simp [hl], by simp [ended],
            by simp [ended], by simpa [ended] using new⟩
        obtain ⟨m, f, q, e⟩ := ih hr
        refine ⟨h :: m, f, first.append (q.mono sub), ?_⟩
        cases f with
        | none => simpa [RoundEnd] using e
        | some failed => exact e
      | failed reason =>
        cases hr
        refine ⟨[], some (h, reason), ⟨⟨_, _, .failed p, by simp, by simp [hs]⟩, by simp [hl],
          by simp [ended], by simp [ended], by simpa [ended] using new⟩, rfl⟩

theorem polls_sleepUntil (t : Instant) : session.Polls id handles finished s
    (s.sleepUntil session.timer session.agent.sleep t) [] none :=
  ⟨⟨[], _, .slept _ _, rfl, by simp [RunState.steps, RunState.sleepUntil]⟩, rfl, by simp [ended],
    by simp [ended], by simp [ended]⟩

def SoakedTo : Option (Handle × String) → SoakEnd → Prop
  | some failed, result => result = .failed (failureText failed)
  | none, result => ∀ reason, result ≠ .failed reason

theorem polls_pollUntil {deadline : Instant} {rounds : Nat} {result : SoakEnd}
    (hr : session.pollUntil id deadline rounds finished s = (result, s')) :
    ∃ m f, session.Polls id s.log finished s s' m f ∧ SoakedTo f result := by
  induction rounds generalizing finished s with
  | zero =>
    simp only [pollUntil] at hr
    split at hr <;> cases hr <;> exact ⟨[], none, .refl _, by simp [SoakedTo]⟩
  | succ rounds ih =>
    simp only [pollUntil] at hr
    split at hr
    · cases hr
      exact ⟨[], none, .refl _, by simp [SoakedTo]⟩
    · split at hr
      · cases hr
        exact ⟨[], none, .refl _, by simp [SoakedTo]⟩
      · rename_i wake _
        -- Sleeping, the round and the rounds after it are appended, with more actions finished each time.
        have slept : session.Polls id s.log finished s _ [] none := polls_sleepUntil (min wake deadline)
        have log : (s.sleepUntil session.timer session.agent.sleep (min wake deadline)).log = s.log :=
          congrArg Ledger.log slept.ledger
        split at hr
        · rename_i reason s₁ hp
          cases hr
          obtain ⟨m, f, p, e⟩ := polls_pollRound hp
          rw [log] at p
          refine ⟨m, f, slept.append p, ?_⟩
          cases f with
          | none => cases e
          | some failed => cases e; rfl
        · rename_i finished' s₁ hp
          obtain ⟨m, f, p, e⟩ := polls_pollRound hp
          rw [log] at p
          cases f with
          | some failed => cases e
          | none =>
            cases e
            have round := slept.append p
            have log' : s₁.log = s.log := congrArg Ledger.log round.ledger
            split at hr
            · cases hr
              exact ⟨m, none, round, by simp [SoakedTo]⟩
            · obtain ⟨n, f, q, e⟩ := ih hr
              rw [log'] at q
              exact ⟨m ++ n, f, round.append q, e⟩

theorem polls_soak {duration : Duration} {result : SoakEnd}
    (hr : session.soak id duration s = (result, s')) :
    ∃ m f, session.Polls id s.log [] s s' m f ∧ SoakedTo f result := by
  unfold soak at hr
  split at hr
  · cases hr
    exact ⟨[], none, .refl _, by simp [SoakedTo]⟩
  · exact polls_pollUntil hr

end GameDay.Session
