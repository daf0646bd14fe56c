import GameDay.Experiment.Trace

namespace GameDay.Session

variable {W S : Type} (session : Session W S) (id : Uuid)

def undo (skill : Skill W S) (l : Launch) (h : Handle) (s : RunState W) :
    Except Error Unit × RunState W :=
  match session.connect (.rollback h) l s with
  | (.error e, s) => (.error e, s)
  | (.ok shared, s) =>
    s.call (skill.rollback ⟨shared, l.target, l.params⟩ h)
      (.rollback skill.descriptor.name l.target l.params h ·)

def rollbackStep (skill : Skill W S) (l : Launch) (h : Handle) (s : RunState W) :
    RollbackRecord × RunState W :=
  let began := s.now
  let (answer, s) := session.undo skill l h s
  let error := match answer with
    | .ok () => none
    | .error e => some (Error.rollback h.skill e).message
  (⟨h.skill, error.isNone, s.now.since began, error⟩,
    session.emit id (.rollbackStepCompleted h.skill error.isNone) s)

/-- Goes through handles in the given order and leaves out those of unknown skills. -/
def rollback : List Handle → RunState W → List RollbackRecord × RunState W
  | [], s => ([], s)
  | h :: hs, s =>
    match session.agent.skill? h.skill, s.launch? h.id with
    | some skill, some l =>
      let (record, s) := session.rollbackStep id skill l h s
      let (records, s) := rollback hs s
      (record :: records, s)
    | _, _ => rollback hs s

end GameDay.Session
