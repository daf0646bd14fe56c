import GameDay.Proofs.Command.Agreement
import GameDay.Proofs.Command.Readiness
import GameDay.Proofs.Experiment.Horizon
import GameDay.Proofs.Inventory.Merging

namespace GameDay

structure Begun (W : Type) where
  id : Uuid
  experiment : Experiment
  before : SessionState W

namespace Begun

variable {W S : Type} (session : Session W S) (b : Begun W)

def run : RunEnd × RunState W := session.run b.id b.experiment b.before.world b.before.now

def ending : RunEnd := (b.run session).1

def steps : List Step := (b.run session).2.steps

def Counted : Prop :=
  ∀ s, session.SoaksFrom b.id b.experiment b.before.world b.before.now s →
    session.Counted b.id b.experiment.duration s

def Stuck : Prop := ∃ a v, session.Searching b.before.world a v

variable {session b}

theorem counted_iff : b.Counted session ↔ b.ending session ≠ .aborted .clockOverflow := by
  unfold ending run
  rw [ne_eq, Session.run_overflow_iff, not_exists]
  exact forall_congr' fun s => by rw [not_and, not_not]

theorem stuck_iff : b.Stuck session ↔ b.ending session = .aborted .endless := by
  constructor
  · rintro ⟨a, v, searching⟩
    exact searching.endless
  · intro endless
    obtain ⟨a, searching, _⟩ := Session.searching_of_run (Prod.ext endless rfl)
    exact ⟨a, _, searching⟩

end Begun

namespace Command

open Cloud (AgentState Equipped)

section runs

variable {W S : Type} (session : Session W S)

def begun : List (Uuid × Experiment) → SessionState W → List (Begun W)
  | [], _ => []
  | (id, x) :: xs, s =>
    ⟨id, x, s⟩ :: match session.step id x s with
      | (.aborted _, _, _) => []
      | (_, _, s) => begun xs s

variable {session}

theorem begun_cons (id : Uuid) (x : Experiment) (xs : List (Uuid × Experiment)) (s : SessionState W)
    (whole : ∀ why, (Begun.mk id x s).ending session ≠ .aborted why) :
    begun session ((id, x) :: xs) s = ⟨id, x, s⟩ :: begun session xs (session.step id x s).2.2 := by
  obtain ⟨ending, r, after, step⟩ : ∃ ending r after, session.step id x s = (ending, r, after) :=
    ⟨_, _, _, rfl⟩
  have run : (Begun.mk id x s).ending session = ending := congrArg Prod.fst (Session.run_of_step step).1
  rw [run] at whole
  rw [begun, step]
  cases ending with
  | aborted why => exact (whole why rfl).elim
  | reported | refused => rfl

theorem runEach_eq_begun (xs : List (Uuid × Experiment)) (s : SessionState W) :
    (runEach session xs s).1 = (begun session xs s).map fun b => (b.experiment, b.ending session) := by
  induction xs generalizing s with
  | nil => rfl
  | cons y xs ih =>
    obtain ⟨id, x⟩ := y
    obtain ⟨ending, r, after, step⟩ : ∃ ending r after, session.step id x s = (ending, r, after) :=
      ⟨_, _, _, rfl⟩
    have run : (Begun.mk id x s).ending session = ending := congrArg Prod.fst (Session.run_of_step step).1
    unfold runEach begun
    rw [step, List.map_cons, run]
    cases ending with
    | aborted why => rfl
    | reported | refused =>
      simp only
      rw [ih]

end runs

section output

variable {results : List (Experiment × RunEnd)}

theorem runOutput_of_reported {reports : List Report}
    (reported : List.Forall₂ (fun result report => result.2 = .reported report) results reports) :
    runOutput results = { out := String.join (reports.map fun r => Text.lines [r.text]) } := by
  have told : results.map reportText = (reports.map fun r => Text.lines [r.text]) ∧
      results.flatMap complaint = [] ∧ results.countP isRefused = 0 ∧ results.any isBrokenOff = false ∧
      results.any isEndless = false := by
    induction reported with
    | nil => exact ⟨rfl, rfl, rfl, rfl, rfl⟩
    | @cons result report results reports here _ ih =>
      obtain ⟨x, ending⟩ := result
      cases here
      obtain ⟨texts, complaints, refused, whole, ends⟩ := ih
      refine ⟨?_, ?_, ?_, ?_, ?_⟩
      · rw [List.map_cons, List.map_cons, texts]
        rfl
      · rw [List.flatMap_cons, complaints]
        rfl
      · rw [List.countP_cons_of_neg Bool.false_ne_true, refused]
      · rw [List.any_cons, whole]
        rfl
      · rw [List.any_cons, ends]
        rfl
  obtain ⟨texts, complaints, refused, whole, ends⟩ := told
  unfold runOutput
  rw [texts, complaints, refused, whole, ends]
  rfl

theorem runOutput_of_endless {x : Experiment} (mem : (x, .aborted .endless) ∈ results) :
    (runOutput results).ends = false := by
  have never : results.any isEndless = true := List.any_eq_true.2 ⟨_, mem, rfl⟩
  unfold runOutput
  simp only [never, if_true]

theorem runOutput_of_refused {xs : List Experiment} (e : Error) (some : xs ≠ []) :
    runOutput (xs.map fun x => (x, .refused e)) =
      { err := Text.lines (xs.map fun x => "Experiment '" ++ x.name ++ "' failed: " ++ e.message) ++
          Text.lines ["Error: " ++ toString xs.length ++ " experiment(s) failed"], code := 1 } := by
  have refused : (xs.map fun x => (x, RunEnd.refused e)).countP isRefused = xs.length := by
    rw [List.countP_map, List.countP_eq_length]
    exact fun _ _ => rfl
  have whole : (xs.map fun x => (x, RunEnd.refused e)).any isBrokenOff = false := by
    rw [List.any_map, List.any_eq_false]
    exact fun _ _ => Bool.false_ne_true
  have ends : (xs.map fun x => (x, RunEnd.refused e)).any isEndless = false := by
    rw [List.any_map, List.any_eq_false]
    exact fun _ _ => Bool.false_ne_true
  have complaints : (xs.map fun x => (x, RunEnd.refused e)).flatMap complaint =
      xs.map fun x => "Experiment '" ++ x.name ++ "' failed: " ++ e.message := by
    rw [List.flatMap_map]
    exact List.flatMap_pure_eq_map _ _
  have silent : String.join ((xs.map fun x => (x, RunEnd.refused e)).map reportText) = "" := by
    clear some refused whole ends complaints
    induction xs with
    | nil => rfl
    | cons x xs ih => simpa [reportText] using ih
  have many : 0 < xs.length := List.length_pos_iff.2 some
  unfold runOutput
  rw [refused, whole, ends, complaints, silent]
  simp [many, Output.failing, Failure.lines, String.append_assoc]

end output

section agent

variable {W : Type} {cloud : Cloud W} {config : Cloud.Settings}
  {session : Session (AgentState W) Connection} (of : session.agent = cloud.agent config)
include of

theorem exists_reports (accesses : config.accesses ≠ []) (xs : List (Uuid × Experiment))
    (s : SessionState (AgentState W)) (fit : s.world.status = .ready → Equipped config s.world)
    (found : ∀ b ∈ begun session xs s, ¬ b.Stuck session)
    (counted : ∀ b ∈ begun session xs s, b.Counted session) :
    (begun session xs s).map (fun b => (b.id, b.experiment)) = xs ∧
    ((begun session xs s).flatMap (·.steps session)).filterMap Step.prepared? =
      (if xs = [] ∨ s.world.status = .ready then [] else [.ok ()]) ∧
    (∀ b ∈ begun session xs s, ∃ targets, (b.steps session).filterMap Step.discovered? = [.ok targets]) ∧
    ∃ reports, List.Forall₂ (fun b report => b.ending session = .reported report ∧
      report.id = b.id ∧ report.name = b.experiment.name) (begun session xs s) reports := by
  induction xs generalizing s with
  | nil => exact ⟨rfl, rfl, List.forall_mem_nil _, [], .nil⟩
  | cons y xs ih =>
    obtain ⟨id, x⟩ := y
    obtain ⟨delivered, equipped⟩ := Session.delivered_of_run (s := ((Begun.mk id x s).run session).2) of
      accesses fit rfl (fun a v searching => found ⟨id, x, s⟩ List.mem_cons_self ⟨a, v, searching⟩)
      (Begun.counted_iff.1 (counted ⟨id, x, s⟩ List.mem_cons_self))
    obtain ⟨report, reported, named⟩ := delivered.reported
    have whole : ∀ why, (Begun.mk id x s).ending session ≠ .aborted why := by
      intro why aborted
      cases reported.symm.trans aborted
    rw [begun_cons id x xs s whole] at found counted ⊢
    have ready : (session.step id x s).2.2.world.status = .ready := equipped.ready
    obtain ⟨order, prepares, discovers, reports, each⟩ := ih _ (fun _ => equipped)
      (fun b mem => found b (List.mem_cons_of_mem _ mem))
      (fun b mem => counted b (List.mem_cons_of_mem _ mem))
    refine ⟨?_, ?_, ?_, report :: reports, .cons ⟨reported, named⟩ each⟩
    · rw [List.map_cons, order]
    · rw [List.flatMap_cons, List.filterMap_append, prepares, if_pos (.inr ready), List.append_nil]
      have first := delivered.prepares
      rw [Begun.steps, first]
      simp
    · exact List.forall_mem_cons.2 ⟨delivered.discovers, discovers⟩

theorem all_refused (none : config.accesses = []) (xs : List (Uuid × Experiment))
    (s : SessionState (AgentState W)) (unready : s.world.status ≠ .ready) :
    (begun session xs s).map (fun b => (b.experiment, b.ending session)) =
      xs.map (fun y => (y.2, .refused (.config "No AWS accesses configured"))) ∧
    ∀ b ∈ begun session xs s, (b.run session).2.world.scene = s.world.scene := by
  induction xs generalizing s with
  | nil => exact ⟨rfl, List.forall_mem_nil _⟩
  | cons y xs ih =>
    obtain ⟨id, x⟩ := y
    obtain ⟨refused, scene, still⟩ := Session.run_of_no_accesses (s := ((Begun.mk id x s).run session).2) of
      none unready rfl
    have whole : ∀ why, (Begun.mk id x s).ending session ≠ .aborted why := by
      intro why aborted
      cases refused.symm.trans aborted
    rw [begun_cons id x xs s whole]
    obtain ⟨order, scenes⟩ := ih (session.step id x s).2.2 still
    refine ⟨?_, ?_⟩
    · rw [List.map_cons, List.map_cons, order]
      rw [show (Begun.mk id x s).ending session = _ from refused]
    · refine List.forall_mem_cons.2 ⟨scene, fun b mem => ?_⟩
      rw [scenes b mem]
      exact scene

end agent

variable {W : Type} (cloud : Cloud W) (l : Loaded) (only : Option String) (world : W)

def beginning : SessionState (AgentState W) :=
  { world := { scene := { world } }, now := cloud.clock world }

def runsOf : List (Begun (AgentState W)) :=
  begun (session cloud l) (withIds (chosen only l.config.experiments)) (beginning cloud world)

theorem map_withIds (xs : List Experiment) : (withIds xs).map Prod.snd = xs := by
  unfold withIds
  rw [List.map_map]
  exact List.zipIdx_map_fst 0 xs

theorem status_beginning : (beginning cloud world).world.status ≠ .ready := by
  simp [beginning]

theorem run_eq (some : chosen only l.config.experiments ≠ []) : run cloud l only false world =
    runOutput ((runsOf cloud l only world).map fun b => (b.experiment, b.ending (session cloud l))) := by
  unfold run runsOf beginning
  rw [← runEach_eq_begun]
  split
  · rename_i none
    exact (some none).elim
  · rfl

variable {cloud l only world} in
theorem ends_of_stuck {b : Begun (AgentState W)} (mem : b ∈ runsOf cloud l only world)
    (stuck : b.Stuck (session cloud l)) : (run cloud l only false world).ends = false := by
  have matching : chosen only l.config.experiments ≠ [] := by
    intro none
    rw [runsOf, none] at mem
    cases mem
  rw [run_eq cloud l only world matching]
  refine runOutput_of_endless (x := b.experiment) (List.mem_map.2 ⟨b, mem, ?_⟩)
  rw [Begun.stuck_iff.1 stuck]

/-- Whatever the services answer, each chosen experiment comes to one report, in order, and the agent gets ready
once and looks for targets once for each, exactly if no search for targets goes on for ever. Without accesses,
every chosen experiment fails before anything is sent. -/
theorem one_report_each (matching : chosen only l.config.experiments ≠ []) :
    (l.settings.accesses ≠ [] →
      (∀ b ∈ runsOf cloud l only world, b.Counted (session cloud l)) →
      ((∀ b ∈ runsOf cloud l only world, ¬ b.Stuck (session cloud l)) →
        ∃ reports : List Report,
          run cloud l only false world = { out := String.join (reports.map fun r => Text.lines [r.text]) } ∧
          (runsOf cloud l only world).map (·.experiment) = chosen only l.config.experiments ∧
          List.Forall₂ (fun b report => b.ending (session cloud l) = .reported report ∧
            report.id = b.id ∧ report.name = b.experiment.name) (runsOf cloud l only world) reports ∧
          ((runsOf cloud l only world).flatMap (·.steps (session cloud l))).filterMap Step.prepared? = [.ok ()] ∧
          ∀ b ∈ runsOf cloud l only world, ∃ targets,
            (b.steps (session cloud l)).filterMap Step.discovered? = [.ok targets]) ∧
      ((∃ b ∈ runsOf cloud l only world, b.Stuck (session cloud l)) →
        (run cloud l only false world).ends = false)) ∧
    (l.settings.accesses = [] →
      run cloud l only false world =
        { err := Text.lines ((chosen only l.config.experiments).map fun x =>
              "Experiment '" ++ x.name ++ "' failed: " ++ (Error.config "No AWS accesses configured").message) ++
            Text.lines ["Error: " ++ toString (chosen only l.config.experiments).length ++
              " experiment(s) failed"]
          code := 1 } ∧
      ∀ b ∈ runsOf cloud l only world, (b.run (session cloud l)).2.world.scene = { world }) := by
  have runs := run_eq cloud l only world matching
  have idle := status_beginning cloud world
  have of : (session cloud l).agent = cloud.agent l.settings := rfl
  constructor
  · intro accesses counted
    refine ⟨fun found => ?_, fun ⟨b, mem, stuck⟩ => ends_of_stuck mem stuck⟩
    obtain ⟨order, prepares, discovers, reports, each⟩ := exists_reports of accesses
      (withIds (chosen only l.config.experiments)) (beginning cloud world) (fun ready => (idle ready).elim)
      found counted
    refine ⟨reports, ?_, ?_, each, ?_, discovers⟩
    · rw [runs]
      apply runOutput_of_reported
      rw [List.forall₂_map_left_iff]
      exact each.imp fun _ _ here => here.1
    · have experiments := congrArg (List.map Prod.snd) order
      rwa [List.map_map, map_withIds] at experiments
    · rw [runsOf, prepares, if_neg]
      rintro (none | ready)
      · have same := map_withIds (chosen only l.config.experiments)
        rw [none] at same
        exact matching same.symm
      · exact idle ready
  · intro none
    obtain ⟨refused, scenes⟩ := all_refused of none (withIds (chosen only l.config.experiments))
      (beginning cloud world) idle
    refine ⟨?_, scenes⟩
    have results := congrArg (List.map fun x => (x, RunEnd.refused (.config "No AWS accesses configured")))
      (map_withIds (chosen only l.config.experiments))
    rw [List.map_map] at results
    rw [runs, runsOf, refused]
    exact (congrArg runOutput results).trans (runOutput_of_refused _ matching)

def garbledTwice : Loaded := { garbledFile with config.experiments := [garbled, garbled] }

def withoutAccess : Loaded := { garbledTwice with settings.accesses := [] }

theorem garbled_reported_twice :
    (∃ first second, run shelf garbledTwice none false (fun _ => none, 0) =
      { out := String.join [Text.lines [first], Text.lines [second]] }) ∧
    (run shelf withoutAccess none false (fun _ => none, 0)).code = 1 := by
  have found : ∀ b ∈ runsOf shelf garbledTwice none (fun _ => none, 0),
      ¬ b.Stuck (session shelf garbledTwice) := by
    simp only [Begun.stuck_iff]
    decide +kernel
  have counted : ∀ b ∈ runsOf shelf garbledTwice none (fun _ => none, 0),
      b.Counted (session shelf garbledTwice) := by
    simp only [Begun.counted_iff]
    decide +kernel
  obtain ⟨served, _⟩ := one_report_each shelf garbledTwice none (fun _ => none, 0) (List.cons_ne_nil _ _)
  obtain ⟨reports, printed, order, each, _⟩ := (served (List.cons_ne_nil _ _) counted).1 found
  obtain ⟨_, refused⟩ := one_report_each shelf withoutAccess none (fun _ => none, 0) (List.cons_ne_nil _ _)
  refine ⟨?_, ?_⟩
  · have two : reports.length = 2 := by
      rw [← each.length_eq, ← List.length_map, order]
      rfl
    obtain ⟨first, second, rfl⟩ := List.length_eq_two.1 two
    exact ⟨first.text, second.text, printed⟩
  · rw [(refused rfl).1]

variable {cloud l} in
theorem stuck_of_neverLast {a : Access} (mem : a ∈ l.settings.registry.accesses)
    (enabled : .template ∈ l.settings.discovery.kinds) (neverLast : Inventory.NeverLast cloud a) (id : Uuid)
    (x : Experiment) {s : SessionState (AgentState W)} (unready : s.world.status ≠ .ready) :
    (Begun.mk id x s).Stuck (session cloud l) := by
  have some : l.settings.accesses ≠ [] := by
    intro none
    simp [Cloud.Settings.registry, none] at mem
  have loads : l.settings.registry.isEmpty = false := by
    rw [Cloud.Settings.isEmpty_registry, List.isEmpty_eq_false_iff]
    exact some
  have prepared := Cloud.prepare_of_accesses some s.world
  refine ⟨_, _, .prepared unready ⟨prepared.1, rfl⟩ ?_⟩
  change cloud.discover l.settings (Cloud.prepare l.settings s.world).world = none
  have never : (Inventory.discover cloud l.settings.poolSize l.settings.registry.accesses
      l.settings.discovery.kinds (Cloud.prepare l.settings s.world).world.scene).1 = none :=
    Inventory.discover_endless mem neverLast enabled _
  unfold Cloud.discover
  simp only [prepared.2.loaded, loads, Bool.false_eq_true, if_false, never, Option.map_none]

theorem begun_of_stuck {S : Type} {session : Session W S} {id : Uuid} {x : Experiment}
    {xs : List (Uuid × Experiment)} {s : SessionState W} (stuck : (Begun.mk id x s).Stuck session) :
    begun session ((id, x) :: xs) s = [⟨id, x, s⟩] := by
  obtain ⟨ending, r, after, step⟩ : ∃ ending r after, session.step id x s = (ending, r, after) :=
    ⟨_, _, _, rfl⟩
  have run : (Begun.mk id x s).ending session = ending := congrArg Prod.fst (Session.run_of_step step).1
  rw [Begun.stuck_iff.1 stuck] at run
  cases run
  rw [begun, step]

def drill : Experiment where
  name := "drill"
  skills := [⟨Disruption.templateRunName, ⟨.template, .empty⟩, .null, 1⟩]
  duration := rehearsalTime

def drillFile : Loaded where
  path := "drill.yaml"
  config := { targetConfig := .null, experiments := [drill] }
  settings := ⟨[⟨"1", "eu", none⟩], 1, ⟨false, false, false, true⟩⟩

/-- A service may go on giving tokens, and then there is no report, whatever the limit. -/
theorem reports_never_come : ¬ ∀ (cloud : Cloud Offline) (l : Loaded) (only : Option String) (world : Offline),
    chosen only l.config.experiments ≠ [] → l.settings.accesses ≠ [] →
    (∀ limit, ∀ b ∈ runsOf { cloud with pageLimit := limit } l only world,
      b.Counted (session { cloud with pageLimit := limit } l)) →
    ∃ limit, ∃ reports : List Report, run { cloud with pageLimit := limit } l only false world =
      { out := String.join (reports.map fun r => Text.lines [r.text]) } := by
  intro reports
  let stuck (limit : Nat) : Cloud Offline := { Inventory.offering fun _ => some "T" with pageLimit := limit }
  have runs (limit : Nat) : ∃ b, b.Stuck (session (stuck limit) drillFile) ∧
      runsOf (stuck limit) drillFile none {} = [b] := by
    have neverLast : Inventory.NeverLast (stuck limit) Inventory.office := fun token w => ⟨_, "T", rfl, rfl⟩
    have first := stuck_of_neverLast (l := drillFile) List.mem_cons_self (by decide) neverLast ⟨0⟩ drill
      (status_beginning (stuck limit) {})
    exact ⟨_, first, begun_of_stuck first⟩
  obtain ⟨limit, printed, run⟩ := reports (Inventory.offering fun _ => some "T") drillFile none {}
    (List.cons_ne_nil _ _) (List.cons_ne_nil _ _) fun limit b mem => by
      obtain ⟨b', endless, only⟩ := runs limit
      rw [only] at mem
      rw [List.mem_singleton.1 mem, Begun.counted_iff, Begun.stuck_iff.1 endless]
      simp
  obtain ⟨b, endless, only⟩ := runs limit
  have never := ends_of_stuck (only ▸ List.mem_cons_self) endless
  rw [run] at never
  cases never

end Command

end GameDay
