import GameDay.Duration.Brief
import GameDay.Report.Basic
import GameDay.Text.Columns

namespace GameDay.Report

open Text (column)

def thickRule : String := Text.rule 72 '='

def thinRule : String := Text.rule 72 '-'

def countsByKind (targets : List TargetSummary) : List (TargetKind × Nat) :=
  (TargetKind.all.map fun k => (k, targets.countP (·.kind = k))).filter (0 < ·.2)

def titled (heading : String) (content : List String) : List String :=
  ["", thinRule, "  " ++ heading, thinRule, ""] ++ content

def table (head : String) (rows : List String) : List String :=
  if rows = [] then ["  (none)"] else head :: rows

def outcome (success : Bool) : String := if success then "OK" else "FAILED"

def errorLines : Option String → List String
  | none => []
  | some e => ["       -> " ++ e]

def countLine (kind count : String) : String := "  " ++ column 15 kind ++ " " ++ count

def countLines (targets : List TargetSummary) : List String :=
  (countsByKind targets).map fun (k, n) => countLine k.shortName (toString n)

def executionLine (number skill target result duration : String) : String :=
  "  " ++ column 4 number ++ " " ++ column 28 skill ++ " " ++ column 40 target ++ " " ++
    column 8 result ++ " " ++ duration

def executionLines (n : Nat) : List ExecutionRecord → List String
  | [] => []
  | r :: rs =>
    executionLine (toString (n + 1)) r.skill r.target (outcome r.success) r.duration.brief ::
      errorLines r.error ++ executionLines (n + 1) rs

def rollbackLine (number skill result duration : String) : String :=
  "  " ++ column 4 number ++ " " ++ column 25 skill ++ " " ++ column 10 result ++ " " ++ duration

def rollbackLines (n : Nat) : List RollbackRecord → List String
  | [] => []
  | r :: rs =>
    rollbackLine (toString (n + 1)) r.skill (outcome r.success) r.duration.brief ::
      errorLines r.error ++ rollbackLines (n + 1) rs

def lines (r : Report) : List String :=
  ["", thickRule, "  EXPERIMENT REPORT", thickRule, "",
    "  Name:     " ++ r.name,
    "  ID:       " ++ r.id.text,
    "  Status:   " ++ r.status,
    "  Duration: " ++ r.total.brief] ++
  titled ("DISCOVERED TARGETS (" ++ toString r.targets.length ++ ")")
    (table (countLine "KIND" "COUNT") (countLines r.targets)) ++
  titled ("SKILLS EXECUTED (" ++ toString r.executions.length ++ ")")
    (table (executionLine "#" "SKILL" "TARGET" "RESULT" "DURATION")
      (executionLines 0 r.executions)) ++
  titled ("ROLLBACK (" ++ toString r.rollback.length ++ " steps)")
    (table (rollbackLine "#" "SKILL" "RESULT" "DURATION") (rollbackLines 0 r.rollback)) ++
  titled "TIMELINE"
    ["  Started:    " ++ r.startedAt.text,
      "  Completed:  " ++ r.completedAt.text,
      "  Soak time:  " ++ r.soak.brief,
      "  Total:      " ++ r.total.brief] ++
  ["", thickRule]

def text (r : Report) : String := Text.lines r.lines

end GameDay.Report
