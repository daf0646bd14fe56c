namespace GameDay

inductive Error
  | skillExecution (skill : String) (source : Error)
  | rollback (skill : String) (source : Error)
  | config (message : String)
  | connection (message : String)
  | discovery (message : String)
  | noTarget (selector : String)
  | cloud (message : String)
  | other (message : String)
deriving DecidableEq, Inhabited

namespace Error

def message : Error → String
  | skillExecution skill source => "Skill execution failed: " ++ skill ++ " -- " ++ source.message
  | rollback skill source => "Rollback failed: " ++ skill ++ " -- " ++ source.message
  | config message => "Configuration error: " ++ message
  | connection message => "Connection error: " ++ message
  | discovery message => "Discovery failed: " ++ message
  | noTarget selector => "No target matches " ++ selector
  | cloud message => "AWS API error: " ++ message
  | other message => message

end Error

end GameDay
