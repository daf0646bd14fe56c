import GameDay.Command.Offline
import GameDay.Command.Perform

namespace GameDay.Command

def fileFault : IO.Error → FileFault
  | .noFileOrDirectory .. => .missing
  | .inappropriateType _ code _ => if code = 21 then .directory else .notDirectory
  | e => .other (toString e)

def readFile (path : String) : IO (Except FileFault String) := do
  try return .ok (← IO.FS.readFile path)
  catch e => return .error (fileFault e)

def filesFor (environment : Option String) (words : List String) : IO Files := do
  match (Args.read? environment words).bind Request.config with
  | none => return fun _ => .error .missing
  | some path => do
    let contents ← readFile path
    return fun _ => contents

end GameDay.Command

open GameDay GameDay.Command in
def main (words : List String) : IO UInt32 := do
  let environment ← IO.getEnv "CHAOS_AWS_CONFIG"
  let files ← filesFor environment words
  let o := perform (offline .epoch) files environment words {}
  IO.print o.out
  IO.eprint o.err
  return o.code.toUInt32
