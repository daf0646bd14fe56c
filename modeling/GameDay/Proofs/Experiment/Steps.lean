import GameDay.Experiment.Trace

namespace GameDay

variable {W S α : Type}

structure Gives (f : W → Reply W α) (u : W) (a : Except Error α) (v : W) : Prop where
  answer : (f u).answer = a
  world : (f u).world = v

def Agent.Discovers (agent : Agent W S) (u : W) (a : Except Error (List Target)) (v : W) : Prop :=
  ∃ took, agent.discover u = some ⟨a, took, v⟩

structure Ledger where
  executions : List ExecutionRecord
  log : RollbackLog
  launches : List (Uuid × Launch)

namespace Ledger

def empty : Ledger := ⟨[], [], []⟩

def add (l : Ledger) (records : List ExecutionRecord) (started : List (Handle × Launch)) : Ledger where
  executions := l.executions ++ records
  log := l.log ++ started.map Prod.fst
  launches := (started.map fun e => (e.1.id, e.2)).reverse ++ l.launches

@[simp] theorem add_nil (l : Ledger) : l.add [] [] = l := by
  cases l
  simp [add]

@[simp] theorem add_add (l : Ledger) (q r : List ExecutionRecord) (m n : List (Handle × Launch)) :
    (l.add q m).add r n = l.add (q ++ r) (m ++ n) := by
  simp [add, List.append_assoc]

end Ledger

theorem Agent.name_of_skill? {agent : Agent W S} {name : String} {skill : Skill W S}
    (h : agent.skill? name = some skill) : skill.descriptor.name = name := by
  have := List.find?_some h
  simpa using this

namespace RunState

def steps (s : RunState W) : List Step := s.trace.toList.map Prod.snd

def ledger (s : RunState W) : Ledger := ⟨s.executions, s.log, s.launches⟩

@[simp] theorem steps_note (s : RunState W) (step : Step) :
    (s.note step).steps = s.steps ++ [step] := by
  simp [steps, note]

@[simp] theorem ledger_note (s : RunState W) (step : Step) : (s.note step).ledger = s.ledger := rfl

@[simp] theorem world_record (s : RunState W) (r : ExecutionRecord) : (s.record r).world = s.world := rfl

@[simp] theorem steps_record (s : RunState W) (r : ExecutionRecord) : (s.record r).steps = s.steps := rfl

@[simp] theorem ledger_record (s : RunState W) (r : ExecutionRecord) :
    (s.record r).ledger = s.ledger.add [r] [] := by
  simp [ledger, record, Ledger.add]

@[simp] theorem world_launched (s : RunState W) (h : Handle) (l : Launch) :
    (s.launched h l).world = s.world := rfl

@[simp] theorem steps_launched (s : RunState W) (h : Handle) (l : Launch) :
    (s.launched h l).steps = s.steps := rfl

@[simp] theorem ledger_launched (s : RunState W) (h : Handle) (l : Launch) :
    (s.launched h l).ledger = s.ledger.add [] [(h, l)] := by
  simp [ledger, launched, Ledger.add, RollbackLog.push]

structure Called (s : RunState W) (f : W → Reply W α) (step : Step) (a : Except Error α)
    (s' : RunState W) : Prop where
  gives : Gives f s.world a s'.world
  steps : s'.steps = s.steps ++ [step]
  ledger : s'.ledger = s.ledger

theorem called {s s' : RunState W} {f : W → Reply W α} {step : Except Error α → Step}
    {a : Except Error α} (h : s.call f step = (a, s')) : Called s f (step a) a s' := by
  cases h
  exact ⟨⟨rfl, rfl⟩, by simp [RunState.steps, note], rfl⟩

theorem notes_eq (s : RunState W) (notes : List Step) :
    notes.foldl note s = { s with trace := s.trace ++ notes.map (s.now, ·) } := by
  induction notes generalizing s with
  | nil => simp
  | cons step notes ih =>
    rw [List.foldl_cons, ih]
    simp [note]

theorem emit_eq (s : RunState W) (listeners : Nat) (event : Event) :
    s.emit listeners event =
      { s with trace := s.trace ++ (List.range listeners).map (s.now, Step.event · event) } := by
  have h := s.notes_eq ((List.range listeners).map (Step.event · event))
  rw [List.foldl_map, List.map_map] at h
  exact h

end RunState

namespace Session

variable (session : Session W S) (id : Uuid)

def announcement (what : Occurrence) : List Step :=
  (List.range session.listeners).map (.event · ⟨id, what⟩)

@[simp] theorem steps_emit (what : Occurrence) (s : RunState W) :
    (session.emit id what s).steps = s.steps ++ session.announcement id what := by
  simp [emit, RunState.emit_eq, RunState.steps, announcement]

@[simp] theorem world_emit (what : Occurrence) (s : RunState W) :
    (session.emit id what s).world = s.world := by
  simp [emit, RunState.emit_eq]

@[simp] theorem ledger_emit (what : Occurrence) (s : RunState W) :
    (session.emit id what s).ledger = s.ledger := by
  simp [emit, RunState.emit_eq, RunState.ledger]

@[simp] theorem log_emit (what : Occurrence) (s : RunState W) :
    (session.emit id what s).log = s.log :=
  congrArg Ledger.log (session.ledger_emit id what s)

@[simp] theorem launches_emit (what : Occurrence) (s : RunState W) :
    (session.emit id what s).launches = s.launches :=
  congrArg Ledger.launches (session.ledger_emit id what s)

variable {session}

theorem connected {purpose : Purpose} {t : Target} {params : Yaml.Value} {s s' : RunState W}
    {a : Except Error S} (h : session.connect purpose ⟨t, params⟩ s = (a, s')) :
    s.Called (session.agent.connect t params)
      (.connect purpose t params (a.map fun _ => ())) a s' :=
  RunState.called h

end Session

end GameDay
