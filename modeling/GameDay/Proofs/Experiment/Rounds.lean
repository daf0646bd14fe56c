import GameDay.Experiment.Run
import GameDay.Proofs.Experiment.Steps

namespace GameDay

namespace Instant

def horizon : Nat := 2 ^ 63 * 10 ^ 9

variable {t u : Instant} {d : Duration}

theorem add?_eq_none_iff : t.add? d = none ↔ horizon ≤ t.nanos + d.nanos := by
  unfold add? horizon
  split <;> simp <;> omega

theorem add?_eq_some_iff : t.add? d = some u ↔ t.nanos + d.nanos < horizon ∧ t.after d = u := by
  unfold add? horizon
  split
  · rename_i counted
    simp [counted]
  · rename_i late
    simp [late]

end Instant

namespace RunState

variable {W α : Type}

theorem now_le_call (s : RunState W) (f : W → Reply W α) (step : Except Error α → Step) :
    s.now.nanos ≤ (s.call f step).2.now.nanos := by
  simp only [call, Instant.after]
  omega

@[simp] theorem now_emit (s : RunState W) (listeners : Nat) (event : Event) :
    (s.emit listeners event).now = s.now := by
  simp [emit_eq]

theorem now_sleepUntil (s : RunState W) (timer : Timer) (sleep : Duration → W → W) (t : Instant) :
    s.now.nanos < (s.sleepUntil timer sleep t).now.nanos ∧ t ≤ (s.sleepUntil timer sleep t).now :=
  timer.lt_resume s.now t

end RunState

namespace Session

variable {W S : Type} {session : Session W S} {id : Uuid} {s : RunState W}

@[simp] theorem now_emit (what : Occurrence) (s : RunState W) :
    (session.emit id what s).now = s.now :=
  RunState.now_emit _ _ _

theorem now_le_poll (h : Handle) (s : RunState W) :
    s.now.nanos ≤ (session.poll h s).2.now.nanos := by
  unfold poll
  split
  · rename_i skill l _ _
    have first := s.now_le_call (session.agent.connect l.target l.params)
      fun answer => .connect (.poll h) l.target l.params (answer.map fun _ => ())
    split
    · rename_i hc
      rw [connect] at hc
      rwa [hc] at first
    · rename_i shared s₁ hc
      rw [connect] at hc
      rw [hc] at first
      have second := s₁.now_le_call (skill.status ⟨shared, l.target, l.params⟩ h)
        (.poll skill.descriptor.name l.target l.params h ·)
      split <;> rename_i hx <;> rw [hx] at second <;> exact Nat.le_trans first second
  · exact Nat.le_refl _

theorem now_le_pollRound (handles : List Handle) (finished : List Uuid) (s : RunState W) :
    s.now.nanos ≤ (session.pollRound id handles finished s).2.now.nanos := by
  induction handles generalizing finished s with
  | nil => exact Nat.le_refl _
  | cons h handles ih =>
    have polled := session.now_le_poll h s
    unfold pollRound
    split
    · exact ih _ _
    · split <;> rename_i hp <;> rw [hp] at polled
      · exact Nat.le_trans polled (ih _ _)
      · exact Nat.le_trans polled (by simpa using ih _ (session.emit id _ _))
      · simpa using polled

theorem pollUntil_ne_endless {deadline : Instant} {rounds : Nat} {finished : List Uuid}
    (enough : deadline.nanos ≤ s.now.nanos + rounds * max 1 session.settings.statusInterval.nanos) :
    (session.pollUntil id deadline rounds finished s).1 ≠ .aborted .endless := by
  induction rounds generalizing finished s with
  | zero =>
    have passed : deadline ≤ s.now := by
      rw [Instant.le_iff]
      omega
    simp [pollUntil, passed]
  | succ rounds ih =>
    unfold pollUntil
    split
    · simp
    · split
      · simp
      · rename_i wake hw
        obtain ⟨later, slept⟩ := s.now_sleepUntil session.timer session.agent.sleep (min wake deadline)
        obtain ⟨woken, hw'⟩ :
            ∃ woken, s.sleepUntil session.timer session.agent.sleep (min wake deadline) = woken :=
          ⟨_, rfl⟩
        have polled : woken.now.nanos ≤
          (session.pollRound id woken.log finished woken).2.now.nanos := now_le_pollRound _ _ _
        obtain ⟨-, rfl⟩ := Instant.add?_eq_some_iff.1 hw
        rw [hw'] at later slept
        simp only [Instant.le_iff, Instant.nanos_min, Instant.after] at slept
        simp only [hw']
        split
        · simp
        · rename_i hp
          simp only [hp] at polled
          split
          · simp
          · apply ih
            -- The clock has gone on by an interval at least, or the deadline has passed.
            rw [Nat.succ_mul] at enough
            omega

theorem le_roundLimit (d interval : Duration) :
    d.nanos ≤ roundLimit d interval * max 1 interval.nanos := by
  have whole := Nat.div_add_mod (d.nanos + max 1 interval.nanos - 1) (max 1 interval.nanos)
  have rest := Nat.mod_lt (d.nanos + max 1 interval.nanos - 1) (show 0 < max 1 interval.nanos by omega)
  rw [Nat.mul_comm] at whole
  rw [roundLimit]
  omega

theorem soak_ne_endless (session : Session W S) (id : Uuid) (d : Duration) (s : RunState W) :
    (session.soak id d s).1 ≠ .aborted .endless := by
  unfold soak
  split
  · simp
  · rename_i deadline hd
    obtain ⟨-, rfl⟩ := Instant.add?_eq_some_iff.1 hd
    exact pollUntil_ne_endless (Nat.add_le_add_left (le_roundLimit _ _) _)

theorem runOn_ne_endless (session : Session W S) (id : Uuid) (x : Experiment) (startedAt : Timestamp)
    (began : Instant) (targets : List Target) (s : RunState W) :
    (session.runOn id x startedAt began targets s).1 ≠ .aborted .endless := by
  unfold runOn
  split
  · rename_i why _ _ hd
    unfold disturb at hd
    split at hd
    · cases hd
    · simp only at hd
      split at hd <;> cases hd
      rename_i hk
      rintro h
      cases h
      exact soak_ne_endless session id _ _ (congrArg Prod.fst hk)
  · simp

end Session

end GameDay
