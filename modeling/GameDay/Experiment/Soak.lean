import GameDay.Experiment.Trace

namespace GameDay

/-- Why a run breaks off: the clock does not count as far as it was told to wait, or the run waits for ever
for something. -/
inductive Abort
  | clockOverflow
  | endless
deriving DecidableEq

inductive SoakEnd
  | over
  | failed (reason : String)
  | aborted (why : Abort)
deriving DecidableEq

namespace Session

variable {W S : Type} (session : Session W S) (id : Uuid)

/-- Asks for the status of an action. One that cannot be asked counts as running. -/
def poll (h : Handle) (s : RunState W) : SkillStatus × RunState W :=
  match session.agent.skill? h.skill, s.launch? h.id with
  | some skill, some l =>
    match session.connect (.poll h) l s with
    | (.error _, s) => (.running, s)
    | (.ok shared, s) =>
      match s.call (skill.status ⟨shared, l.target, l.params⟩ h)
          (.poll skill.descriptor.name l.target l.params h ·) with
      | (.ok status, s) => (status, s)
      | (.error _, s) => (.running, s)
  | _, _ => (.running, s)

/-- Asks the actions that have not completed, in order, up to the first that has failed. -/
def pollRound :
    List Handle → List Uuid → RunState W → Except String (List Uuid) × RunState W
  | [], finished, s => (.ok finished, s)
  | h :: hs, finished, s =>
    if h.id ∈ finished then pollRound hs finished s
    else
      match session.poll h s with
      | (.running, s) => pollRound hs finished s
      | (.completed, s) =>
        pollRound hs (h.id :: finished) (session.emit id (.skillFinished h.skill h.target none) s)
      | (.failed reason, s) =>
        (.error (h.skill ++ " on " ++ h.target ++ ": " ++ reason),
          session.emit id (.skillFinished h.skill h.target (some reason)) s)

def pollUntil (deadline : Instant) :
    Nat → List Uuid → RunState W → SoakEnd × RunState W
  | 0, _, s => if deadline ≤ s.now then (.over, s) else (.aborted .endless, s)
  | rounds + 1, finished, s =>
    if deadline ≤ s.now then (.over, s)
    else
      match s.now.add? session.settings.statusInterval with
      | none => (.aborted .clockOverflow, s)
      | some wake =>
        let s := s.sleepUntil session.timer session.agent.sleep (min wake deadline)
        match session.pollRound id s.log finished s with
        | (.error reason, s) => (.failed reason, s)
        | (.ok finished, s) =>
          if finished.length = s.log.length then (.over, s)
          else pollUntil deadline rounds finished s

/-- The rounds that fit into a time. Each of them takes time, also with no interval between them. -/
def roundLimit (duration interval : Duration) : Nat :=
  (duration.nanos + max 1 interval.nanos - 1) / max 1 interval.nanos

def soak (duration : Duration) (s : RunState W) : SoakEnd × RunState W :=
  match s.now.add? duration with
  | none => (.aborted .clockOverflow, s)
  | some deadline =>
    session.pollUntil id deadline (roundLimit duration session.settings.statusInterval) [] s

end Session

end GameDay
