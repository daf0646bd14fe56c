import GameDay.Text.Columns

namespace GameDay.Command

structure Output where
  out : String := ""
  err : String := ""
  code : Nat := 0
  /-- The command comes to an end. Else this is what it has written by then. -/
  ends : Bool := true
deriving DecidableEq

structure Failure where
  message : String
  cause : Option String := none
deriving DecidableEq

namespace Failure

/-- The lines of a text after the first are indented by four blanks. -/
def hanging (s : String) : String :=
  String.join (s.toList.map fun c => if c = '\n' then "\n    " else c.toString)

def lines (f : Failure) : List String :=
  ("Error: " ++ f.message) :: match f.cause with
    | none => []
    | some cause => ["", "Caused by:", "    " ++ hanging cause]

end Failure

namespace Output

def failing (o : Output) (f : Failure) : Output :=
  { o with err := o.err ++ Text.lines f.lines, code := 1 }

def usage : Output :=
  { err := Text.lines
      ["Usage: gameday [--version] [--config PATH] [--verbose] [--log-json] COMMAND",
        "Commands: run [--only NAME] [--dry-run]; discover [--kind KIND] [--json];",
        "          list-skills [--target KIND]; validate"]
    code := 2 }

end Output

end GameDay.Command
