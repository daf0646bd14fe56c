import GameDay.Command.Loading
import GameDay.Disruption.Catalogue
import GameDay.Duration.Exact

namespace GameDay.Command

inductive Verdict
  | unknown
  | wrongKind (expected : TargetKind)
  | invalidParams (error : Error)
  | fine
deriving DecidableEq

def verdict (inv : Invocation) : Verdict :=
  match Disruption.all.find? (·.descriptor.name = inv.skill) with
  | none => .unknown
  | some d =>
    if d.descriptor.kind = inv.target.kind then
      match d.validate inv.params with
      | .ok () => .fine
      | .error e => .invalidParams e
    else .wrongKind d.descriptor.kind

inductive Fault
  | noAccess
  | skill (experiment : String) (inv : Invocation) (verdict : Verdict)

def invocationFault? (x : Experiment) (inv : Invocation) : Option Fault :=
  match verdict inv with
  | .fine => none
  | v => some (.skill x.name inv v)

def experimentFaults (x : Experiment) : List Fault := x.skills.filterMap (invocationFault? x)

def accessFaults (settings : Cloud.Settings) : List Fault :=
  if settings.accesses = [] then [.noAccess] else []

def faults (l : Loaded) : List Fault :=
  accessFaults l.settings ++ l.config.experiments.flatMap experimentFaults

def Fault.text : Fault → String
  | noAccess => "target_config: no accesses configured"
  | skill x inv .unknown => "Experiment '" ++ x ++ "': unknown skill '" ++ inv.skill ++ "'"
  | skill x inv (.wrongKind expected) =>
    "Experiment '" ++ x ++ "', skill '" ++ inv.skill ++ "': targets " ++ expected.shortName ++
      " but selector is " ++ inv.target.kind.shortName
  | skill x inv (.invalidParams e) =>
    "Experiment '" ++ x ++ "', skill '" ++ inv.skill ++ "': invalid params: " ++ e.message
  | skill x inv .fine => "Experiment '" ++ x ++ "', skill '" ++ inv.skill ++ "': OK"

def verdictLine (inv : Invocation) : String :=
  let skill := "    Skill '" ++ inv.skill ++ "'"
  match verdict inv with
  | .unknown => skill ++ ": NOT FOUND"
  | .wrongKind expected =>
    skill ++ ": WRONG TARGET - expects " ++ expected.shortName ++ ", selector is " ++
      inv.target.kind.shortName
  | .invalidParams e => skill ++ ": INVALID - " ++ e.message
  | .fine => skill ++ " on " ++ inv.target.text ++ ": OK"

def experimentLines (number : Nat) (x : Experiment) : List String :=
  ["", "  Experiment #" ++ toString number ++ ": '" ++ x.name ++ "'",
    "    Duration: " ++ x.duration.exact,
    "    Skills: " ++ toString x.skills.length] ++ x.skills.map verdictLine

def validationLines (l : Loaded) : List String :=
  ["Validating " ++ l.path ++ "...", "  YAML parsing: OK",
    "  Accesses: " ++ toString l.settings.accesses.length,
    "  Experiments found: " ++ toString l.config.experiments.length] ++
  (l.config.experiments.zipIdx 1).flatMap (fun (x, number) => experimentLines number x) ++ [""]

def validate (l : Loaded) : Output :=
  match faults l with
  | [] => { out := Text.lines (validationLines l ++ ["Validation PASSED"]) }
  | found =>
    let count := toString found.length
    { out := Text.lines
        (validationLines l ++ ["Validation FAILED with " ++ count ++ " error(s):"])
      err := Text.lines (found.map fun f => "  - " ++ f.text) : Output }.failing
        { message := count ++ " validation error(s)" }

end GameDay.Command
