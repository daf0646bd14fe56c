import GameDay.Agent
import GameDay.Event
import GameDay.Experiment.Basic
import GameDay.Instant
import GameDay.Report.Basic

/-!
The state of a running experiment and the trace that it leaves: every call of the agent with its
answer, and every event with its listener, in order and with the time at which they began.
-/

namespace GameDay

inductive Purpose
  | execute
  | poll (handle : Handle)
  | rollback (handle : Handle)

inductive Step
  | prepare (answer : Except Error Unit)
  | discover (answer : Except Error (List Target))
  | validate (skill : String) (params : Yaml.Value) (answer : Except Error Unit)
  | connect (purpose : Purpose) (target : Target) (params : Yaml.Value) (answer : Except Error Unit)
  | execute (skill : String) (target : Target) (params : Yaml.Value) (answer : Except Error Handle)
  | poll (skill : String) (target : Target) (params : Yaml.Value) (handle : Handle)
      (answer : Except Error SkillStatus)
  | rollback (skill : String) (target : Target) (params : Yaml.Value) (handle : Handle)
      (answer : Except Error Unit)
  | event (listener : Nat) (event : Event)

structure Launch where
  target : Target
  params : Yaml.Value

structure RunState (W : Type) where
  world : W
  now : Instant
  trace : Array (Instant × Step) := #[]
  executions : List ExecutionRecord := []
  log : RollbackLog := []
  launches : List (Uuid × Launch) := []

namespace RunState

variable {W α : Type}

def note (s : RunState W) (step : Step) : RunState W :=
  { s with trace := s.trace.push (s.now, step) }

def call (s : RunState W) (f : W → Reply W α) (step : Except Error α → Step) :
    Except Error α × RunState W :=
  let r := f s.world
  (r.answer, { s.note (step r.answer) with world := r.world, now := s.now.after r.took })

def emit (s : RunState W) (listeners : Nat) (event : Event) : RunState W :=
  (List.range listeners).foldl (fun s i => s.note (.event i event)) s

def sleepUntil (s : RunState W) (timer : Timer) (sleep : Duration → W → W) (t : Instant) :
    RunState W :=
  let woken := timer.resume s.now t
  { s with world := sleep (woken.since s.now) s.world, now := woken }

def record (s : RunState W) (r : ExecutionRecord) : RunState W :=
  { s with executions := s.executions ++ [r] }

def launched (s : RunState W) (h : Handle) (l : Launch) : RunState W :=
  { s with log := s.log.push h, launches := (h.id, l) :: s.launches }

/-- What the action of a handle was aimed at; the last one counts. -/
def launch? (s : RunState W) (id : Uuid) : Option Launch := s.launches.lookup id

end RunState

/-- An agent, how often it is asked for the status of its skills, how many listeners hear of
events, and what the session sleeps by. -/
structure Session (W S : Type) where
  agent : Agent W S
  settings : Settings
  listeners : Nat
  timer : Timer := .exact

namespace Session

variable {W S : Type}

def emit (session : Session W S) (id : Uuid) (what : Occurrence) (s : RunState W) : RunState W :=
  s.emit session.listeners ⟨id, what⟩

def connect (session : Session W S) (purpose : Purpose) (l : Launch) (s : RunState W) :
    Except Error S × RunState W :=
  s.call (session.agent.connect l.target l.params) fun answer =>
    .connect purpose l.target l.params (answer.map fun _ => ())

end Session

end GameDay
