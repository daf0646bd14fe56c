import GameDay.Duration.Basic

namespace GameDay

structure Instant where
  nanos : Nat
deriving DecidableEq

namespace Instant

def zero : Instant := ⟨0⟩

instance : LE Instant := ⟨fun s t => s.nanos ≤ t.nanos⟩

instance (s t : Instant) : Decidable (s ≤ t) := inferInstanceAs (Decidable (s.nanos ≤ t.nanos))

theorem le_iff {s t : Instant} : s ≤ t ↔ s.nanos ≤ t.nanos := Iff.rfl

instance : Min Instant := ⟨fun s t => if s ≤ t then s else t⟩

@[simp] theorem nanos_min (s t : Instant) : (min s t).nanos = min s.nanos t.nanos := by
  change (if s ≤ t then s else t).nanos = _
  split <;> rename_i h <;> rw [le_iff] at h <;> omega

def after (t : Instant) (d : Duration) : Instant := ⟨t.nanos + d.nanos⟩

def add? (t : Instant) (d : Duration) : Option Instant :=
  if t.nanos + d.nanos < 2 ^ 63 * 10 ^ 9 then some (t.after d) else none

def since (t earlier : Instant) : Duration :=
  ⟨min (t.nanos - earlier.nanos) Duration.longest.nanos, by simp only [Duration.longest]; omega⟩

end Instant

/-- A timer wakes sleepers at the multiples of its tick, in nanoseconds. A sleeper whose instant is over
goes on at once, which takes time, too. -/
structure Timer where
  tick : Nat
  tick_pos : 0 < tick := by decide
  lag : Instant → Nat := fun _ => 1
  lag_pos : ∀ now, 0 < lag now := by simp

namespace Timer

def exact : Timer := { tick := 1 }

def milliseconds : Timer := { tick := 10 ^ 6 }

/-- When a sleeper wakes who asked for an instant: at the first multiple that is not before it. -/
def wake (timer : Timer) (t : Instant) : Instant :=
  ⟨(t.nanos + (timer.tick - 1)) / timer.tick * timer.tick⟩

def resume (timer : Timer) (now t : Instant) : Instant :=
  if t ≤ now then ⟨now.nanos + timer.lag now⟩ else timer.wake t

theorem le_wake (timer : Timer) (t : Instant) : t ≤ timer.wake t := by
  have pos := timer.tick_pos
  have h := Nat.div_add_mod (t.nanos + (timer.tick - 1)) timer.tick
  have hm := Nat.mod_lt (t.nanos + (timer.tick - 1)) pos
  simp only [Instant.le_iff, wake]
  rw [Nat.mul_comm] at h
  omega

theorem lt_resume (timer : Timer) (now t : Instant) :
    now.nanos < (timer.resume now t).nanos ∧ t ≤ timer.resume now t := by
  have later := timer.lag_pos now
  have woken := timer.le_wake t
  unfold resume
  split <;> simp only [Instant.le_iff] at * <;> omega

end Timer

end GameDay
