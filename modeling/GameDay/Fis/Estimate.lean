import GameDay.Fis.TemplateActions

/-!
How long a template runs: the longest chain of actions, each starting after the ones before it.

Actions are settled in passes. An action settles when all actions it starts after have; one that
never can, because it waits for itself or for a name that does not exist, counts alone.
-/

namespace GameDay.Fis

/-- The time from the start of the experiment to the end of each settled action. -/
abbrev EndTimes := Dictionary Duration

/-- When the last of the named actions ends, if all have settled. -/
def latestEnd? (ends : EndTimes) : List String → Option Duration
  | [] => some .zero
  | name :: names => do
    let d ← ends.get? name
    let e ← latestEnd? ends names
    return max d e

def Action.end? (a : Action) (ends : EndTimes) : Option Duration :=
  (latestEnd? ends a.startAfter).map fun start => start.addUpTo a.duration

def settlePass (ends : EndTimes) :
    List (String × Action) → EndTimes × List (String × Action)
  | [] => (ends, [])
  | (name, a) :: rest =>
    match a.end? ends with
    | some d => settlePass (ends.insert name d) rest
    | none =>
      let (ends, waiting) := settlePass ends rest
      (ends, (name, a) :: waiting)

def settle (ends : EndTimes) (waiting : List (String × Action)) : EndTimes :=
  let r := settlePass ends waiting
  if r.2.length < waiting.length then settle r.1 r.2
  else r.2.foldl (fun ends e => ends.insert e.1 e.2.duration) r.1
termination_by waiting.length

def TemplateActions.endTimes (actions : TemplateActions) : EndTimes :=
  settle .empty actions.entries

def TemplateActions.totalDuration (actions : TemplateActions) : Duration :=
  actions.endTimes.values.foldl max .zero

end GameDay.Fis
