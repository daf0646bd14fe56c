import GameDay.Proofs.Experiment.Reversal
import Mathlib.Tactic.ByContra

/-!
Runs and the last instant that the clock counts to. The second phase of a run computes ahead when it
ends and when its next round is due; a run breaks off there, with nothing undone, if one of these
instants is too late for the clock.
-/

namespace GameDay

open Instant (horizon add?_eq_none_iff add?_eq_some_iff)

namespace Session

variable {W S : Type} (session : Session W S) (id : Uuid)

/-- From a state before the deadline, with some actions finished, a round begins in a later one. -/
inductive Begins (deadline : Instant) : List Uuid → RunState W → RunState W → Prop
  | here {finished : List Uuid} {s : RunState W} (early : ¬ deadline ≤ s.now) :
      Begins deadline finished s s
  | later {finished finished' : List Uuid} {s woken s' r : RunState W} {wake : Instant}
      (early : ¬ deadline ≤ s.now) (ahead : s.now.add? session.settings.statusInterval = some wake)
      (slept : s.sleepUntil session.timer session.agent.sleep (min wake deadline) = woken)
      (round : session.pollRound id woken.log finished woken = (.ok finished', s'))
      (unfinished : finished'.length ≠ s'.log.length) (begins : Begins deadline finished' s' r) :
      Begins deadline finished s r

/-- The clock counts to the end of the second phase, and from each of its rounds to the next. -/
structure Counted (d : Duration) (s : RunState W) : Prop where
  deadline : s.now.nanos + d.nanos < horizon
  rounds : ∀ r, session.Begins id (s.now.after d) [] s r →
    r.now.nanos + session.settings.statusInterval.nanos < horizon

def SoaksFrom (x : Experiment) (world : W) (now : Instant) (s : RunState W) : Prop :=
  ∃ s₁ targets s₂ s₃,
    session.prepare (session.emit id (.started (session.agent.wallClock world)) { world, now }) =
      (.ok (), s₁) ∧
    session.discover s₁ = some (.ok targets, s₂) ∧
    session.launch id targets x.skills (session.emit id (.targetsDiscovered targets.length) s₂) =
      (.ok (), s₃) ∧
    s = session.emit id (.waitBegun x.duration) s₃

variable {session id} {deadline : Instant} {finished : List Uuid} {s r : RunState W} {d : Duration}
  {x : Experiment} {world : W} {now : Instant}

theorem now_round {wake : Instant} {woken s' : RunState W} {finished' : List Uuid}
    (ahead : s.now.add? session.settings.statusInterval = some wake)
    (slept : s.sleepUntil session.timer session.agent.sleep (min wake deadline) = woken)
    (round : session.pollRound id woken.log finished woken = (.ok finished', s')) :
    min (s.now.nanos + max 1 session.settings.statusInterval.nanos) deadline.nanos ≤ s'.now.nanos := by
  obtain ⟨later, due⟩ := s.now_sleepUntil session.timer session.agent.sleep (min wake deadline)
  have polled : woken.now.nanos ≤ (session.pollRound id woken.log finished woken).2.now.nanos :=
    now_le_pollRound _ _ _
  obtain ⟨-, rfl⟩ := add?_eq_some_iff.1 ahead
  rw [slept, Instant.le_iff, Instant.nanos_min, Instant.after] at due
  rw [slept] at later
  rw [round] at polled
  simp only at due polled
  omega

theorem Begins.early (b : session.Begins id deadline finished s r) :
    r.now.nanos < deadline.nanos := by
  induction b with
  | here early =>
    rw [Instant.le_iff] at early
    omega
  | later _ _ _ _ _ _ ih => exact ih

theorem overflow_of_pollUntil {rounds : Nat}
    (h : (session.pollUntil id deadline rounds finished s).1 = .aborted .clockOverflow) :
    ∃ r, session.Begins id deadline finished s r ∧
      horizon ≤ r.now.nanos + session.settings.statusInterval.nanos := by
  induction rounds generalizing finished s with
  | zero =>
    unfold pollUntil at h
    split at h <;> cases h
  | succ rounds ih =>
    unfold pollUntil at h
    split at h
    · cases h
    · rename_i early
      split at h
      · rename_i late
        exact ⟨s, .here early, add?_eq_none_iff.1 late⟩
      · rename_i wake ahead
        simp only at h
        split at h
        · cases h
        · rename_i finished' s' round
          split at h
          · cases h
          · rename_i unfinished
            obtain ⟨r, begins, late⟩ := ih h
            exact ⟨r, .later early ahead rfl round unfinished begins, late⟩

theorem pollUntil_overflow {rounds : Nat} (begins : session.Begins id deadline finished s r)
    (late : horizon ≤ r.now.nanos + session.settings.statusInterval.nanos)
    (enough : deadline.nanos ≤ s.now.nanos + rounds * max 1 session.settings.statusInterval.nanos) :
    (session.pollUntil id deadline rounds finished s).1 = .aborted .clockOverflow := by
  induction begins generalizing rounds with
  | here early =>
    rw [Instant.le_iff] at early
    cases rounds with
    | zero => omega
    | succ rounds =>
      have none := add?_eq_none_iff.2 late
      simp only [pollUntil, Instant.le_iff, if_neg early, none]
  | later early ahead slept round unfinished _ ih =>
    have passed := now_round ahead slept round
    rw [Instant.le_iff] at early
    cases rounds with
    | zero => omega
    | succ rounds =>
      simp only [pollUntil, Instant.le_iff, if_neg early, ahead, slept, round, if_neg unfinished]
      apply ih late
      rw [Nat.succ_mul] at enough
      omega

theorem soak_overflow_iff :
    (session.soak id d s).1 = .aborted .clockOverflow ↔ ¬ session.Counted id d s := by
  unfold soak
  cases ahead : s.now.add? d with
  | none =>
    have late := add?_eq_none_iff.1 ahead
    simp only [true_iff]
    intro counted
    have := counted.deadline
    omega
  | some deadline =>
    obtain ⟨counts, rfl⟩ := add?_eq_some_iff.1 ahead
    constructor
    · intro h counted
      obtain ⟨r, begins, late⟩ := overflow_of_pollUntil h
      have := counted.rounds r begins
      omega
    · intro uncounted
      obtain ⟨r, begins, late⟩ : ∃ r, session.Begins id (s.now.after d) [] s r ∧
          horizon ≤ r.now.nanos + session.settings.statusInterval.nanos := by
        by_contra none
        apply uncounted
        refine ⟨counts, ?_⟩
        intro r begins
        by_contra late
        exact none ⟨r, begins, by omega⟩
      exact pollUntil_overflow begins late (Nat.add_le_add_left (le_roundLimit _ _) _)

theorem Counted.of_sum_lt
    (h : s.now.nanos + d.nanos + session.settings.statusInterval.nanos < horizon) :
    session.Counted id d s := by
  constructor
  · omega
  · intro r begins
    have early := begins.early
    simp only [Instant.after] at early
    omega

theorem Counted.first (counted : session.Counted id d s) (lasting : 0 < d.nanos) :
    s.now.nanos + session.settings.statusInterval.nanos < horizon := by
  apply counted.rounds s
  apply Begins.here
  rw [Instant.le_iff, Instant.after]
  simp only
  omega

theorem runOn_aborted_iff {startedAt : Timestamp} {began : Instant} {targets : List Target} {why : Abort}
    {s' : RunState W} : session.runOn id x startedAt began targets s = (.aborted why, s') ↔
      ∃ s₁, session.launch id targets x.skills s = (.ok (), s₁) ∧
        session.soak id x.duration (session.emit id (.waitBegun x.duration) s₁) =
          (.aborted why, s') := by
  unfold runOn disturb
  obtain ⟨answer, s₁, launched⟩ : ∃ answer s₁, session.launch id targets x.skills s = (answer, s₁) :=
    ⟨_, _, rfl⟩
  cases answer with
  | error e => simp [launched]
  | ok _ =>
    obtain ⟨ending, s₂, ends⟩ : ∃ ending s₂, session.soak id x.duration
      (session.emit id (.waitBegun x.duration) s₁) = (ending, s₂) := ⟨_, _, rfl⟩
    simp only [launched, Prod.mk.injEq, true_and, exists_eq_left']
    rw [ends]
    cases ending <;> simp

theorem run_overflow_iff :
    (session.run id x world now).1 = .aborted .clockOverflow ↔
      ∃ s, session.SoaksFrom id x world now s ∧ ¬ session.Counted id x.duration s := by
  unfold run SoaksFrom
  obtain ⟨prepared, s₁, hp⟩ : ∃ prepared s₁, session.prepare
    (session.emit id (.started (session.agent.wallClock world)) { world, now }) = (prepared, s₁) :=
      ⟨_, _, rfl⟩
  cases prepared with
  | error e => simp [hp]
  | ok _ =>
    rcases hd : session.discover s₁ with _ | ⟨e | targets, s₂⟩
    · simp [hp, hd]
    · simp [hp, hd]
    · simp only [hp, hd]
      constructor
      · intro broken
        obtain ⟨s₃, launched, soaked⟩ := runOn_aborted_iff.1 (Prod.ext broken rfl)
        exact ⟨_, ⟨s₁, targets, s₂, s₃, rfl, hd, launched, rfl⟩,
          soak_overflow_iff.1 (congrArg Prod.fst soaked)⟩
      · rintro ⟨s, ⟨_, _, _, s₃, ⟨⟩, again, launched, rfl⟩, uncounted⟩
        rw [hd] at again
        cases again
        have soaked := soak_overflow_iff.2 uncounted
        exact congrArg Prod.fst (runOn_aborted_iff.2 ⟨s₃, launched, Prod.ext soaked rfl⟩)

theorem SoaksFrom.unique {s' : RunState W} (soaks : session.SoaksFrom id x world now s)
    (soaks' : session.SoaksFrom id x world now s') : s = s' := by
  obtain ⟨s₁, targets, s₂, s₃, hp, hd, hl, rfl⟩ := soaks
  obtain ⟨_, _, _, _, hp', hd', hl', rfl⟩ := soaks'
  cases hp.symm.trans hp'
  cases hd.symm.trans hd'
  cases hl.symm.trans hl'
  rfl

theorem SoaksFrom.reported (soaks : session.SoaksFrom id x world now s)
    (counts : (session.run id x world now).1 ≠ .aborted .clockOverflow) :
    ∃ report, (session.run id x world now).1 = .reported report := by
  obtain ⟨s₁, targets, s₂, s₃, hp, hd, -, -⟩ := soaks
  unfold run at counts ⊢
  simp only [hp, hd] at counts ⊢
  have unending := runOn_ne_endless session id x (session.agent.wallClock world) now targets
    (session.emit id (.targetsDiscovered targets.length) s₂)
  unfold runOn at counts unending ⊢
  split
  · rename_i why _ _ broken
    simp only [broken] at counts unending
    cases why with
    | clockOverflow => exact (counts rfl).elim
    | endless => exact (unending rfl).elim
  · exact ⟨_, rfl⟩

theorem undoes_nothing_of_overflow {s' : RunState W}
    (h : session.run id x world now = (.aborted .clockOverflow, s')) :
    s'.steps.filterMap Step.undoBegun? = [] := by
  cases run_cases h with
  | goesOn hp hd rest =>
    obtain ⟨preparing, prepares, -, prepared⟩ := preparing_of_run hp hd
    obtain ⟨s₃, hl, hs⟩ := runOn_aborted_iff.1 rest
    obtain ⟨launching, _, _, _, launches, -, launched, -⟩ := launches_launch hl
    obtain ⟨_, _, polls, -⟩ := polls_soak hs
    obtain ⟨waiting, _, polling, -, waited⟩ := polls.polling
    have silent {p : Phase} {a : List Step} (of : OfPhase p a) (ne : p ≠ .undo) :
        a.filterMap Step.undoBegun? = [] :=
      of.filterMap_eq_nil ne fun _ => Step.undoBegun?_silent
    have told (what : Occurrence) :
        (session.announcement id what).filterMap Step.undoBegun? = [] :=
      silent (ofPhase_announcement .setup what) (by decide)
    rw [waited, steps_emit, launched, steps_emit, prepared]
    simp [told, silent prepares.ofPhase (by decide), silent launches.ofPhase (by decide),
      silent polling.ofPhase (by decide)]

/-- A run breaks off because of its clock exactly if its second phase is not counted. Then it has launched
all of its skills and undoes none; otherwise it gets to the last phase. The sums that the clock has to
count to are known when the phase begins, up to one interval. -/
theorem broken_off_iff_not_counted (session : Session W S) (id : Uuid) (x : Experiment) (world : W)
    (now : Instant) :
    ((session.run id x world now).1 = .aborted .clockOverflow ↔
      ∃ s, session.SoaksFrom id x world now s ∧ ¬ session.Counted id x.duration s) ∧
    ((session.run id x world now).1 = .aborted .clockOverflow →
      (session.run id x world now).2.steps.filterMap Step.undoBegun? = []) ∧
    ∀ s, session.SoaksFrom id x world now s →
      (session.Counted id x.duration s →
        ∃ report, (session.run id x world now).1 = .reported report) ∧
      (s.now.nanos + x.duration.nanos + session.settings.statusInterval.nanos < horizon →
        session.Counted id x.duration s) ∧
      (session.Counted id x.duration s → s.now.nanos + x.duration.nanos < horizon ∧
        (0 < x.duration.nanos →
          s.now.nanos + session.settings.statusInterval.nanos < horizon)) := by
  refine ⟨run_overflow_iff, fun broken => undoes_nothing_of_overflow (Prod.ext broken rfl),
    fun s soaks => ⟨?_, .of_sum_lt, ?_⟩⟩
  · intro counted
    apply soaks.reported
    rw [ne_eq, run_overflow_iff]
    rintro ⟨s', soaks', uncounted⟩
    cases soaks.unique soaks'
    exact uncounted counted
  · intro counted
    exact ⟨counted.deadline, counted.first⟩

end Session

def second : Duration := ⟨1000000000, by decide⟩

def glimpse : Experiment where
  name := "glimpse"
  skills := [⟨"dim", ⟨.lambda, .empty⟩, .null, 1⟩]
  duration := second

/-- Its rounds are so far apart that the clock never shows when the first one is due. -/
def unhurried : Session Nat Unit := { rehearsal 0 with settings := ⟨⟨(2 ^ 64 - 1) * 10 ^ 9, by decide⟩⟩ }

theorem glimpse_reported :
    ∃ s, (rehearsal 0).SoaksFrom ⟨7⟩ glimpse 0 .zero s ∧
      (rehearsal 0).Counted ⟨7⟩ glimpse.duration s ∧
      ∃ report, ((rehearsal 0).run ⟨7⟩ glimpse 0 .zero).1 = .reported report := by
  have soaks : (rehearsal 0).SoaksFrom ⟨7⟩ glimpse 0 .zero _ := ⟨_, _, _, _, rfl, rfl, rfl, rfl⟩
  obtain ⟨-, -, sums⟩ := Session.broken_off_iff_not_counted (rehearsal 0) ⟨7⟩ glimpse 0 .zero
  obtain ⟨reaches, counts, -⟩ := sums _ soaks
  have counted := counts (by decide)
  exact ⟨_, soaks, counted, reaches counted⟩

/-- The time from one round to the next can be read from a configuration, and what the run has launched is
not undone. -/
theorem rollback_skipped : ¬ ∀ (lasts pause : String) (d i : Duration), Duration.read? lasts = some d →
    Duration.read? pause = some i → ∀ (W S : Type) (session : Session W S) (id : Uuid) (x : Experiment)
      (world : W) (now : Instant) (s : RunState W), session.settings = ⟨i⟩ → x.duration = d →
      session.SoaksFrom id x world now s → s.log ≠ [] →
      ∃ report, (session.run id x world now).1 = .reported report := by
  intro always
  have lasts : Duration.read? "1s" = some second := by decide +kernel
  have pause : Duration.read? "18446744073709551615s" = some unhurried.settings.statusInterval := by
    decide +kernel
  have soaks : unhurried.SoaksFrom ⟨7⟩ glimpse 0 .zero _ := ⟨_, _, _, _, rfl, rfl, rfl, rfl⟩
  obtain ⟨report, reported⟩ := always _ _ _ _ lasts pause Nat Unit unhurried ⟨7⟩ glimpse 0 .zero _
    rfl rfl soaks (List.cons_ne_nil _ _)
  have broken : (unhurried.run ⟨7⟩ glimpse 0 .zero).1 = .aborted .clockOverflow := by rfl
  cases broken.symm.trans reported

end GameDay
