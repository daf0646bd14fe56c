import GameDay.Experiment.Launch
import GameDay.Experiment.Rollback
import GameDay.Experiment.Soak

namespace GameDay

inductive RunEnd
  | reported (report : Report)
  | refused (error : Error)
  | aborted (why : Abort)
deriving DecidableEq

namespace Session

variable {W S : Type} (session : Session W S) (id : Uuid)

def prepare (s : RunState W) : Except Error Unit × RunState W :=
  if session.agent.status s.world = .ready then (.ok (), s)
  else s.call session.agent.prepare .prepare

def discover (s : RunState W) : Option (Except Error (List Target) × RunState W) :=
  (session.agent.discover s.world).map fun r => s.call (fun _ => r) .discover

def disturb (x : Experiment) (targets : List Target) (s : RunState W) :
    Except Abort (Option String) × Duration × RunState W :=
  match session.launch id targets x.skills s with
  | (.error e, s) => (.ok (some e.message), .zero, session.emit id (.failed e.message) s)
  | (.ok (), s) =>
    let began := s.now
    match session.soak id x.duration (session.emit id (.waitBegun x.duration) s) with
    | (.over, s) => (.ok none, s.now.since began, s)
    | (.failed reason, s) =>
      (.ok (some reason), s.now.since began, session.emit id (.failed reason) s)
    | (.aborted why, s) => (.error why, s.now.since began, s)

def finalStatus : Option String → Experiment.Status
  | none => .completed
  | some reason => .failed reason

def runOn (x : Experiment) (startedAt : Timestamp) (began : Instant) (targets : List Target)
    (s : RunState W) : RunEnd × RunState W :=
  match session.disturb id x targets s with
  | (.error why, _, s) => (.aborted why, s)
  | (.ok failure, soak, s) =>
    let s := session.emit id .rollbackStarted s
    let (rollback, s) := session.rollback id s.log.undoOrder s
    let completedAt := session.agent.wallClock s.world
    let s := session.emit id (.completed completedAt) s
    (.reported
      { id
        name := x.name
        status := (finalStatus failure).label
        startedAt
        completedAt
        total := s.now.since began
        soak
        targets := targets.map Target.summary
        executions := s.executions
        rollback }, s)

def run (x : Experiment) (world : W) (now : Instant) : RunEnd × RunState W :=
  let startedAt := session.agent.wallClock world
  let s := session.emit id (.started startedAt) { world, now }
  match session.prepare s with
  | (.error e, s) => (.refused e, s)
  | (.ok (), s) =>
    match session.discover s with
    | none => (.aborted .endless, s)
    | some (.error e, s) => (.refused e, s)
    | some (.ok targets, s) =>
      session.runOn id x startedAt now targets
        (session.emit id (.targetsDiscovered targets.length) s)

end Session

structure SessionState (W : Type) where
  world : W
  now : Instant := .zero
  reports : List (Uuid × Report) := []

namespace SessionState

def report? {W : Type} (s : SessionState W) (id : Uuid) : Option Report := s.reports.lookup id

end SessionState

namespace Session

variable {W S : Type}

def step (session : Session W S) (id : Uuid) (x : Experiment) (s : SessionState W) :
    RunEnd × RunState W × SessionState W :=
  let (result, r) := session.run id x s.world s.now
  let reports := match result with
    | .reported report => (id, report) :: s.reports
    | _ => s.reports
  (result, r, { world := r.world, now := r.now, reports })

end Session

end GameDay
