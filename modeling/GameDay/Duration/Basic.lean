import GameDay.Power

namespace GameDay

structure Duration where
  nanos : Nat
  nanos_lt : nanos < 2 ^ 64 * 10 ^ 9
deriving DecidableEq

namespace Duration

theorem ext_nanos {d e : Duration} (h : d.nanos = e.nanos) : d = e := by
  cases d; cases e; cases h; rfl

def zero : Duration := ⟨0, by decide⟩

def longest : Duration := ⟨2 ^ 64 * 10 ^ 9 - 1, by decide⟩

instance : Inhabited Duration := ⟨zero⟩

def ofNanos? (n : Nat) : Option Duration :=
  if h : n < 2 ^ 64 * 10 ^ 9 then some ⟨n, h⟩ else none

def ofMillis? (n : Nat) : Option Duration := ofNanos? (n * 10 ^ 6)

@[simp] theorem ofNanos?_nanos (d : Duration) : ofNanos? d.nanos = some d := by
  rw [ofNanos?, dif_pos d.nanos_lt]

theorem nanos_of_ofNanos? {n : Nat} {d : Duration} (h : ofNanos? n = some d) : d.nanos = n := by
  unfold ofNanos? at h
  split at h
  · cases h; rfl
  · cases h

def secs (d : Duration) : Nat := d.nanos / 10 ^ 9

def subsecNanos (d : Duration) : Nat := d.nanos % 10 ^ 9

def subsecMillis (d : Duration) : Nat := d.subsecNanos / 10 ^ 6

def millis (d : Duration) : Nat := d.nanos / 10 ^ 6

theorem subsecNanos_lt (d : Duration) : d.subsecNanos < 10 ^ 9 :=
  Nat.mod_lt _ (by decide)

theorem nanos_eq (d : Duration) : d.nanos = d.secs * 10 ^ 9 + d.subsecNanos := by
  simp only [secs, subsecNanos]; omega

instance : LE Duration := ⟨fun d e => d.nanos ≤ e.nanos⟩

instance (d e : Duration) : Decidable (d ≤ e) := inferInstanceAs (Decidable (d.nanos ≤ e.nanos))

theorem le_iff {d e : Duration} : d ≤ e ↔ d.nanos ≤ e.nanos := Iff.rfl

instance : Max Duration := ⟨fun d e => if d ≤ e then e else d⟩

@[simp] theorem nanos_max (d e : Duration) : (max d e).nanos = max d.nanos e.nanos := by
  change (if d ≤ e then e else d).nanos = _
  split <;> rename_i h <;> rw [le_iff] at h <;> omega

/-- Addition that stops at the longest duration. -/
def addUpTo (d e : Duration) : Duration :=
  ⟨min (d.nanos + e.nanos) (2 ^ 64 * 10 ^ 9 - 1), by omega⟩

@[simp] theorem nanos_addUpTo (d e : Duration) :
    (d.addUpTo e).nanos = min (d.nanos + e.nanos) longest.nanos := rfl

end Duration

end GameDay
