import GameDay.Dictionary
import GameDay.Duration.Iso8601

namespace GameDay.Fis

/-- An action lasts for its own duration and starts when all actions it names have ended. -/
structure Action where
  duration : Duration
  startAfter : List String := []
deriving DecidableEq

/-- The action of a declared duration. A missing or unreadable duration counts as zero. -/
def Action.ofDeclared (declared : Option String) (startAfter : List String) : Action :=
  let duration := match declared with
    | none => Duration.zero
    | some text => match Duration.Iso8601.read text with
      | .ok d => d
      | .error _ => Duration.zero
  { duration, startAfter }

abbrev TemplateActions := Dictionary Action

end GameDay.Fis
