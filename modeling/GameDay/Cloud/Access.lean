import GameDay.Error
import GameDay.Target

namespace GameDay

/-- A way into one region of an account. The number tells accesses to the same place apart. -/
structure Access where
  number : Nat
  account : String
  region : String
  profile : Option String := none
deriving DecidableEq

namespace Access

/-- Marks a target as found through the access. -/
def stamp (a : Access) (t : Target) : Target :=
  (t.add Target.accountKey a.account).add Target.regionKey a.region

def reaches (a : Access) (t : Target) : Bool :=
  t.account? = some a.account && t.region? = some a.region

def text (a : Access) : String :=
  "AwsAccess \x7b account: " ++ Text.quoted a.account ++ ", region: " ++ Text.quoted a.region ++
    ", .. \x7d"

end Access

/-- All accesses, in the order in which they are tried. -/
structure Registry where
  accesses : List Access
deriving DecidableEq

namespace Registry

def isEmpty (r : Registry) : Bool := r.accesses.isEmpty

def unknown : String := "<unknown>"

/-- The first access that reaches a target. -/
def forTarget (r : Registry) (t : Target) : Except Error Access :=
  match r.accesses.find? (·.reaches t) with
  | some a => .ok a
  | none => .error (.connection ("No AWS access configured for account " ++
      t.account?.getD unknown ++ " in " ++ t.region?.getD unknown))

end Registry

end GameDay
