import GameDay.Command.Offline
import GameDay.Command.Perform
import GameDay.Proofs.Command.Agreement

namespace GameDay.Command

def Fault.concerns (only : Option String) : Fault → Bool
  | noAccess => true
  | skill x _ _ => only = none ∨ only = some x

def approval : Output := { out := Text.lines ["Configuration is valid."] }

variable {l : Loaded} {x : Experiment} {only : Option String}

theorem concerns_of_mem_experimentFaults {f : Fault} (mem : f ∈ experimentFaults x) :
    f.concerns only = decide (only = none ∨ only = some x.name) := by
  obtain ⟨inv, -, fault⟩ := List.mem_filterMap.1 mem
  unfold invocationFault? at fault
  split at fault
  · cases fault
  · cases fault
    rfl

theorem filter_experimentFaults : (experimentFaults x).filter (·.concerns only) =
    if only = none ∨ only = some x.name then experimentFaults x else [] := by
  split
  · rename_i chosen
    rw [List.filter_eq_self]
    intro f mem
    rw [concerns_of_mem_experimentFaults mem, decide_eq_true chosen]
  · rename_i other
    rw [List.filter_eq_nil_iff]
    intro f mem
    rw [concerns_of_mem_experimentFaults mem, decide_eq_false other]
    exact Bool.false_ne_true

theorem filter_flatMap_experimentFaults (xs : List Experiment) :
    (xs.flatMap experimentFaults).filter (·.concerns only) = (chosen only xs).flatMap experimentFaults := by
  induction xs with
  | nil => rfl
  | cons x xs ih =>
    rw [List.flatMap_cons, List.filter_append, ih, filter_experimentFaults, chosen, chosen, List.filter_cons]
    by_cases named : only = none ∨ only = some x.name
    · rw [if_pos named, if_pos (decide_eq_true named), List.flatMap_cons]
    · rw [if_neg named, if_neg (by rwa [decide_eq_true_iff]), List.nil_append]

theorem filter_accessFaults (settings : Cloud.Settings) :
    (accessFaults settings).filter (·.concerns only) = accessFaults settings := by
  unfold accessFaults
  split <;> rfl

theorem filter_faults (only : Option String) (l : Loaded) : (faults l).filter (·.concerns only) =
    accessFaults l.settings ++ (chosen only l.config.experiments).flatMap experimentFaults := by
  rw [faults, List.filter_append, filter_accessFaults, filter_flatMap_experimentFaults]

theorem accessFaults_eq_nil_iff {settings : Cloud.Settings} :
    accessFaults settings = [] ↔ settings.accesses ≠ [] := by
  unfold accessFaults
  split <;> simp [*]

theorem filter_faults_eq_nil_iff : (faults l).filter (·.concerns only) = [] ↔
    l.settings.accesses ≠ [] ∧
      ∀ x ∈ chosen only l.config.experiments, ∀ inv ∈ x.skills, verdict inv = .fine := by
  rw [filter_faults, List.append_eq_nil_iff, accessFaults_eq_nil_iff, List.flatMap_eq_nil_iff]
  simp only [faultless_iff]

theorem code_validate_eq_zero_iff : (validate l).code = 0 ↔ faults l = [] := by
  unfold validate
  split
  · rename_i none
    exact iff_of_true rfl none
  · rename_i some
    exact iff_of_false Nat.one_ne_zero some

variable {W : Type} {cloud : Cloud W} {world : W}

theorem run_dry (some : chosen only l.config.experiments ≠ []) : run cloud l only true world = approval := by
  unfold run
  split
  · rename_i none
    exact (some none).elim
  · rfl

variable {files : Files} {environment path : Option String} {words : List String}

theorem perform_of_failed {r : Request} {f : Failure} (reads : Args.read? environment words = some r)
    (config : r.verb = .validate ∨ ∃ only dry, r.verb = .run only dry)
    (failed : load files r.config = .error f) :
    perform cloud files environment words world = ({} : Output).failing f := by
  unfold perform performRequest
  rw [reads]
  rcases config with verb | ⟨only, dry, verb⟩ <;> simp only [verb, failed] <;> rfl

theorem perform_validate (reads : Args.read? environment words = some ⟨.validate, path⟩)
    (loaded : load files path = .ok l) :
    perform cloud files environment words world = validate l := by
  unfold perform performRequest
  simp only [reads, loaded]
  rfl

theorem perform_run {dry : Bool} (reads : Args.read? environment words = some ⟨.run only dry, path⟩)
    (loaded : load files path = .ok l) :
    perform cloud files environment words world = run cloud l only dry world := by
  unfold perform performRequest
  simp only [reads, loaded]
  rfl

variable (cloud files world) in
/-- A dry run and a validation fail alike of a file that cannot be loaded. Of any other, the dry run approves
whatever it chooses, and the validation tells what is wrong with that: they agree exactly if nothing is. -/
theorem dry_run_agrees_iff_faultless {checking : List String}
    (dry : Args.read? environment words = some ⟨.run only true, path⟩)
    (checks : Args.read? environment checking = some ⟨.validate, path⟩) :
    let dryRun := perform cloud files environment words world
    let validation := perform cloud files environment checking world
    (∀ f, load files path = .error f → dryRun = ({} : Output).failing f ∧ validation = dryRun) ∧
    ∀ l, load files path = .ok l →
      (validation.code = 0 ↔ faults l = []) ∧
      (∃ closing, validation.err = Text.lines ((faults l).map fun f => "  - " ++ f.text) ++ closing) ∧
      (chosen only l.config.experiments ≠ [] → dryRun = approval ∧
        ((dryRun = approval ↔ (faults l).filter (·.concerns only) = []) ↔
          l.settings.accesses ≠ [] ∧
            ∀ x ∈ chosen only l.config.experiments, ∀ inv ∈ x.skills, verdict inv = .fine)) := by
  intro dryRun validation
  constructor
  · intro f failed
    have first : dryRun = _ := perform_of_failed dry (.inr ⟨only, true, rfl⟩) failed
    have second : validation = _ := perform_of_failed checks (.inl rfl) failed
    exact ⟨first, second.trans first.symm⟩
  · intro l loaded
    have told : validation = validate l := perform_validate checks loaded
    rw [told]
    refine ⟨code_validate_eq_zero_iff, err_validate l, fun some => ?_⟩
    have approved : dryRun = approval := (perform_run dry loaded).trans (run_dry some)
    refine ⟨approved, ?_⟩
    rw [← filter_faults_eq_nil_iff, approved]
    simp only [true_iff]

def rebootFile (skill : String) : Files := fun _ => .ok <| Text.lines
  ["target_config:", "  accesses:", "  - account: '1'", "    region: eu", "experiments:", "- name: reboot",
    "  duration: 10s", "  skills:", "  - skill_name: " ++ skill, "    target:", "      kind: msk_broker"]

theorem exists_loaded (files : Files) (path : String) (faultless : Bool)
    (evaluated : (load files (some path)).toOption.any (fun l => !(chosen none l.config.experiments).isEmpty &&
      ((faults l).filter (·.concerns none)).isEmpty == faultless) = true) :
    ∃ l, load files (some path) = .ok l ∧ chosen none l.config.experiments ≠ [] ∧
      ((faults l).filter (·.concerns none) = [] ↔ faultless = true) := by
  cases loaded : load files (some path) with
  | error f =>
    rw [loaded] at evaluated
    cases evaluated
  | ok l =>
    rw [loaded] at evaluated
    simp only [Except.toOption, Option.any_some, Bool.and_eq_true, Bool.not_eq_true', beq_iff_eq,
      List.isEmpty_eq_false_iff] at evaluated
    exact ⟨l, rfl, evaluated.1, by rw [← evaluated.2, List.isEmpty_iff]⟩

theorem reboot_dry_run_agrees : ∃ l, load (rebootFile Disruption.rebootName) (some "c.yaml") = .ok l ∧
    perform (offline .epoch) (rebootFile Disruption.rebootName) none ["run", "--dry-run", "-c", "c.yaml"] {} =
      approval ∧
    (faults l).filter (·.concerns none) = [] := by
  obtain ⟨l, loaded, some, faultless⟩ :=
    exists_loaded (rebootFile Disruption.rebootName) "c.yaml" true (by decide +kernel)
  have dry : Args.read? none ["run", "--dry-run", "-c", "c.yaml"] = .some ⟨.run none true, "c.yaml"⟩ := by
    decide +kernel
  have checks : Args.read? none ["validate", "-c", "c.yaml"] = .some ⟨.validate, "c.yaml"⟩ := by
    decide +kernel
  have agrees := (dry_run_agrees_iff_faultless (offline .epoch) {} (rebootFile Disruption.rebootName)
    dry checks).2 l loaded
  exact ⟨l, loaded, (agrees.2.2 some).1, faultless.2 rfl⟩

/-- The skill does not exist. -/
theorem unknown_skill_approved : ¬ ∀ (files : Files) (words : List String) (only : Option String) (path : String)
    (l : Loaded), Args.read? none words = some ⟨.run only true, path⟩ → load files path = .ok l →
      chosen only l.config.experiments ≠ [] →
      (perform (offline .epoch) files none words {} = approval ↔
        (faults l).filter (·.concerns only) = []) := by
  intro agree
  obtain ⟨l, loaded, some, faultless⟩ :=
    exists_loaded (rebootFile "aws.msk.reboot") "c.yaml" false (by decide +kernel)
  have reads : Args.read? none ["run", "--dry-run", "-c", "c.yaml"] = .some ⟨.run none true, "c.yaml"⟩ := by
    decide +kernel
  have approved : perform (offline .epoch) (rebootFile "aws.msk.reboot") none
      ["run", "--dry-run", "-c", "c.yaml"] {} = approval :=
    (perform_run reads loaded).trans (run_dry some)
  have none := (agree _ _ _ _ _ reads loaded some).1 approved
  exact Bool.false_ne_true (faultless.1 none)

end GameDay.Command
