import GameDay.Experiment.Trace

namespace GameDay

namespace Invocation

def selected (inv : Invocation) (targets : List Target) : List Target :=
  (inv.target.select targets).take inv.count

end Invocation

namespace Session

variable {W S : Type} (session : Session W S) (id : Uuid)

def launchOn (inv : Invocation) (skill : Skill W S) (target : Target) (s : RunState W) :
    Except Error Unit × RunState W :=
  match session.connect .execute ⟨target, inv.params⟩ s with
  | (.error e, s) => (.error e, s)
  | (.ok shared, s) =>
    let began := s.now
    let (answer, s) := s.call (skill.execute ⟨shared, target, inv.params⟩)
      (.execute skill.descriptor.name target inv.params ·)
    let finish (success : Bool) (error : Option String) : RunState W :=
      session.emit id (.skillExecuted inv.skill target.id success)
        (s.record ⟨inv.skill, target.id, success, s.now.since began, error⟩)
    match answer with
    | .ok handle => (.ok (), (finish true none).launched handle ⟨target, inv.params⟩)
    | .error e => (.error (.skillExecution inv.skill e), finish false (some e.message))

def launchOnEach (inv : Invocation) (skill : Skill W S) :
    List Target → RunState W → Except Error Unit × RunState W
  | [], s => (.ok (), s)
  | target :: targets, s =>
    match session.launchOn id inv skill target s with
    | (.ok (), s) => launchOnEach inv skill targets s
    | (.error e, s) => (.error e, s)

def check (inv : Invocation) (s : RunState W) : Except Error (Skill W S) × RunState W :=
  match session.agent.skill? inv.skill with
  | none => (.error (.config ("Unknown skill: " ++ inv.skill)), s)
  | some skill =>
    if skill.descriptor.kind = inv.target.kind then
      let answer := skill.validate inv.params
      (answer.map fun _ => skill, s.note (.validate skill.descriptor.name inv.params answer))
    else
      (.error (.config ("Skill " ++ inv.skill ++ " cannot target " ++ inv.target.kind.shortName)), s)

def launchInvocation (targets : List Target) (inv : Invocation) (s : RunState W) :
    Except Error Unit × RunState W :=
  match session.check inv s with
  | (.error e, s) => (.error e, s)
  | (.ok skill, s) =>
    if inv.selected targets = [] then (.error (.noTarget inv.target.text), s)
    else session.launchOnEach id inv skill (inv.selected targets) s

def launch (targets : List Target) :
    List Invocation → RunState W → Except Error Unit × RunState W
  | [], s => (.ok (), s)
  | inv :: invs, s =>
    match session.launchInvocation id targets inv s with
    | (.ok (), s) => launch targets invs s
    | (.error e, s) => (.error e, s)

end Session

end GameDay
