/-!
The arguments of the command line: a command with its options, and options that every command has.

An option of one letter may be joined with others of one letter. A value follows its option, or is
joined to it, by an equals sign after a long name. No option that is not counted is given twice.
Nothing is read behind an option that is final.
-/

namespace GameDay.Command

inductive Verb
  | run (only : Option String) (dryRun : Bool)
  | discover (kind : Option String) (json : Bool)
  | listSkills (kind : Option String)
  | validate
  | version
deriving DecidableEq

/-- A command and the path of the configuration that it is about, if one is given. -/
structure Request where
  verb : Verb
  config : Option String
deriving DecidableEq

namespace Args

structure Flag where
  long : String
  short : Option Char := none
  valued : Bool := false
  counted : Bool := false
  mayBeEmpty : Bool := true
  final : Bool := false

abbrev Given := List (String × String)

inductive Word
  | bad
  | plain
  | options (given : Given) (pending : Option String)

def joined : List Char → List Char
  | '=' :: value => value
  | value => value

def readLetters (flags : List Flag) : List Char → Word
  | [] => .options [] none
  | c :: cs =>
    match flags.find? (·.short = some c) with
    | none => .bad
    | some f =>
      if f.final then .options [(f.long, "")] none
      else if f.valued then
        if cs = [] then .options [] (some f.long)
        else .options [(f.long, String.ofList (joined cs))] none
      else match readLetters flags cs with
        | .options given pending => .options ((f.long, "") :: given) pending
        | w => w

def readLong (flags : List Flag) (cs : List Char) : Word :=
  let name := String.ofList (cs.takeWhile (· ≠ '='))
  match flags.find? (·.long = name), cs.dropWhile (· ≠ '=') with
  | none, _ => .bad
  | some f, [] => if f.valued then .options [] (some name) else .options [(name, "")] none
  | some f, _ :: value => if f.valued then .options [(name, String.ofList value)] none else .bad

def readWord (flags : List Flag) (word : String) : Word :=
  match word.toList with
  | '-' :: '-' :: cs => readLong flags cs
  | ['-'] => .plain
  | '-' :: cs => readLetters flags cs
  | _ => .plain

def isDashed (word : String) : Bool :=
  match word.toList with
  | '-' :: _ :: _ => true
  | _ => false

def value? (given : Given) (f : Flag) : Option String := given.lookup f.long

def isGiven (given : Given) (f : Flag) : Bool := (value? given f).isSome

/-- The options up to the first plain word, and the words from there on, of which there are none
behind a final option. The second argument is an option whose value comes next. -/
def scan (flags : List Flag) : Option String → List String → Option (Given × List String)
  | none, [] => some ([], [])
  | some _, [] => none
  | some name, word :: words =>
    if isDashed word then none
    else (scan flags none words).map fun (given, rest) => ((name, word) :: given, rest)
  | none, word :: words =>
    if word = "--" then if words = [] then some ([], []) else none
    else match readWord flags word with
      | .bad => none
      | .plain => some ([], word :: words)
      | .options given pending =>
        if flags.any fun f => f.final && isGiven given f then some (given, [])
        else (scan flags pending words).map fun (more, rest) => (given ++ more, rest)

/-- Whether no option is given too often, and none has an empty value that must not. -/
def isProper (flags : List Flag) (given : Given) : Bool :=
  flags.all fun f =>
    let values := (given.filter (·.1 = f.long)).map Prod.snd
    (f.counted || decide (values.length ≤ 1)) && (f.mayBeEmpty || !f.valued || !values.contains "")

def configFlag : Flag := { long := "config", short := some 'c', valued := true, mayBeEmpty := false }

def commonFlags : List Flag :=
  [configFlag, { long := "verbose", short := some 'v', counted := true }, { long := "log-json" }]

def onlyFlag : Flag := { long := "only", valued := true }

def dryRunFlag : Flag := { long := "dry-run" }

def kindFlag : Flag := { long := "kind", valued := true }

def jsonFlag : Flag := { long := "json" }

def targetFlag : Flag := { long := "target", valued := true }

def versionFlag : Flag := { long := "version", short := some 'V', final := true }

def verb? : String → Option (List Flag × (Given → Verb))
  | "run" => some ([onlyFlag, dryRunFlag],
      fun given => .run (value? given onlyFlag) (isGiven given dryRunFlag))
  | "discover" => some ([kindFlag, jsonFlag],
      fun given => .discover (value? given kindFlag) (isGiven given jsonFlag))
  | "list-skills" => some ([targetFlag], fun given => .listSkills (value? given targetFlag))
  | "validate" => some ([], fun _ => .validate)
  | _ => none

def properScan (flags : List Flag) (words : List String) : Option (Given × List String) :=
  (scan flags none words).filter fun r => isProper flags r.1

/-- The configuration given behind the command, or before it, or else by the environment. -/
def chooseConfig (inner outer environment : Option String) : Option (Option String) :=
  if environment = some "" ∧ (inner = none ∨ outer = none) then none
  else some (inner <|> outer <|> environment)

def read? (environment : Option String) (words : List String) : Option Request := do
  let (outer, rest) ← properScan (versionFlag :: commonFlags) words
  match rest with
  | [] => if isGiven outer versionFlag then some ⟨.version, none⟩ else none
  | name :: words => do
    let (own, make) ← verb? name
    let (given, rest) ← properScan (own ++ commonFlags) words
    if rest = [] then
      let config ← chooseConfig (value? given configFlag) (value? outer configFlag) environment
      return { verb := make given, config }
    else none

end Args

end GameDay.Command
