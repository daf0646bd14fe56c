import GameDay.Cloud.Agent
import GameDay.Command.Loading
import GameDay.Experiment.Run
import GameDay.Report.Layout

namespace GameDay.Command

def chosen (only : Option String) (xs : List Experiment) : List Experiment :=
  xs.filter fun x => only = none ∨ only = some x.name

variable {W S : Type}

def runEach (session : Session W S) :
    List (Uuid × Experiment) → SessionState W → List (Experiment × RunEnd) × SessionState W
  | [], s => ([], s)
  | (id, x) :: xs, s =>
    match session.step id x s with
    | (.aborted why, _, s) => ([(x, .aborted why)], s)
    | (result, _, s) =>
      let (results, s) := runEach session xs s
      ((x, result) :: results, s)

def reportText : Experiment × RunEnd → String
  | (_, .reported report) => Text.lines [report.text]
  | _ => ""

def complaint : Experiment × RunEnd → List String
  | (x, .refused e) => ["Experiment '" ++ x.name ++ "' failed: " ++ e.message]
  | (x, .aborted .clockOverflow) => ["Experiment '" ++ x.name ++ "' broke off"]
  | _ => []

def isRefused (r : Experiment × RunEnd) : Bool := r.2 matches .refused _

def isBrokenOff (r : Experiment × RunEnd) : Bool := r.2 matches .aborted .clockOverflow

def isEndless (r : Experiment × RunEnd) : Bool := r.2 matches .aborted .endless

def runOutput (results : List (Experiment × RunEnd)) : Output :=
  let o : Output :=
    { out := String.join (results.map reportText), err := Text.lines (results.flatMap complaint) }
  let failed := results.countP isRefused
  if results.any isEndless then { o with ends := false }
  else if results.any isBrokenOff then { o with code := 101 }
  else if 0 < failed then o.failing { message := toString failed ++ " experiment(s) failed" }
  else o

def session (cloud : Cloud W) (l : Loaded) : Session (Cloud.AgentState W) Connection :=
  { agent := cloud.agent l.settings, settings := l.config.settings, listeners := 1,
    timer := .milliseconds }

def withIds (xs : List Experiment) : List (Uuid × Experiment) :=
  xs.zipIdx.map fun (x, i) => (⟨i⟩, x)

def run (cloud : Cloud W) (l : Loaded) (only : Option String) (dryRun : Bool) (world : W) : Output :=
  match chosen only l.config.experiments with
  | [] => ({} : Output).failing { message := "No matching experiments in " ++ l.path }
  | xs =>
    if dryRun then { out := Text.lines ["Configuration is valid."] }
    else
      runOutput (runEach (session cloud l) (withIds xs)
        { world := { scene := { world } }, now := cloud.clock world }).1

end GameDay.Command
