import GameDay.Decode.Source

/-!
Records with named fields.

The entries of a mapping are read in their order, and the first one that does not fit decides
the error. Only then is a field missed, in the order in which the record names its fields.
-/

namespace GameDay.Decode

/-- The result of reading some of a record's fields: the earliest entry that does not fit, and
the value or the first field that has none. -/
structure Outcome (α : Type) where
  failure : Option (Nat × DecodeError)
  result : Except String α

def earlier : Option (Nat × DecodeError) → Option (Nat × DecodeError) → Option (Nat × DecodeError)
  | some a, some b => some (if a.1 ≤ b.1 then a else b)
  | some a, none => some a
  | none, b => b

/-- An entry with its place in the mapping, its key, and the path to the mapping. -/
structure Entry (σ : Type) where
  position : Nat
  mapping : Path
  key : String
  value : σ

structure Fields (σ α : Type) where
  names : List String
  read : List (Entry σ) → StateM Nat (Outcome α)

namespace Fields

variable {σ α β : Type}

instance : Applicative (Fields σ) where
  pure a := ⟨[], fun _ => return ⟨none, .ok a⟩⟩
  seq f g :=
    let g := g ()
    { names := f.names ++ g.names
      read := fun entries => do
        let a ← f.read entries
        let b ← g.read entries
        return ⟨earlier a.failure b.failure, a.result <*> b.result⟩ }

variable [Source σ]

/-- One field: the first entry with the name is read, and there may be no second. -/
def field (name : String) (reader : Reader σ α) (absent : Outcome α) : Fields σ α where
  names := [name]
  read entries aliases :=
    match entries.filter (·.key = name) with
    | [] => (absent, aliases)
    | e :: again => match (reader e.value).run aliases with
      | .error err => (⟨some (e.position, err), .error name⟩, aliases)
      | .ok (a, aliases) => match again with
        | [] => (⟨none, .ok a⟩, aliases)
        | second :: _ =>
          (⟨some (second.position, ⟨second.mapping, .duplicate name⟩), .error name⟩, aliases)

def required (name : String) (reader : Reader σ α) : Fields σ α :=
  field name reader ⟨none, .error name⟩

def optional (name : String) (reader : Reader σ α) (default : α) : Fields σ α :=
  field name reader ⟨none, .ok default⟩

end Fields

variable {σ α : Type} [Source σ]

/-- The entries up to the first whose key is no text, or no known name where others are refused. -/
def identify (known : Option (List String)) (record : σ) :
    Nat → List (σ × σ) → StateM Nat (List (Entry σ) × Option (Nat × DecodeError))
  | _, [] => return ([], none)
  | position, (k, v) :: rest => do
    match (Source.text "field identifier" k).run (← get) with
    | .error e => return ([], some (position, e))
    | .ok (key, aliases) =>
      set aliases
      let path := Source.path record
      match known.filter (key ∉ ·) with
      | some names => return ([], some (position, ⟨path, .unknownField key names⟩))
      | none =>
        let (entries, failure) ← identify known record (position + 1) rest
        return (⟨position, path, key, v⟩ :: entries, failure)

def always {β : Type} (m : StateM Nat β) : Reading β := fun aliases => .ok (m.run aliases)

def recordOf (name : String) (fields : Fields σ α) (strict : Bool) : Reader σ α := fun s => do
  let known := if strict then some fields.names else none
  let pairs ← Source.entries ("struct " ++ name) s
  let (entries, stopped) ← always (identify known s 0 pairs)
  let outcome ← always (fields.read entries)
  match earlier outcome.failure stopped, outcome.result with
  | some (_, e), _ => throw e
  | none, .ok a => return a
  | none, .error field => fail s (.missing field)

def record (name : String) (fields : Fields σ α) : Reader σ α := recordOf name fields false

def strictRecord (name : String) (fields : Fields σ α) : Reader σ α := recordOf name fields true

end GameDay.Decode
