import GameDay.Decode.Error
import GameDay.Dictionary
import GameDay.Duration.Units
import GameDay.Yaml.Value

namespace GameDay.Decode

/-- A range of unsigned integers, with the name that messages give it. -/
structure IntegerRange where
  name : String
  bits : Nat

def IntegerRange.bits16 : IntegerRange := ⟨"u16", 16⟩

def IntegerRange.bits32 : IntegerRange := ⟨"u32", 32⟩

def IntegerRange.bits64 : IntegerRange := ⟨"u64", 64⟩

def IntegerRange.size : IntegerRange := ⟨"usize", 64⟩

def IntegerRange.member? (r : IntegerRange) (n : Int) : Except Cause Nat :=
  if 0 ≤ n ∧ n < 2 ^ r.bits then .ok n.toNat else .error (.wrongValue (.integer n) r.name)

abbrev Reading (α : Type) := StateT Nat (Except DecodeError) α

class Source (σ : Type) where
  path : σ → Path
  /-- A text; the first argument says what was expected if there is none. -/
  text : String → σ → Reading String
  natural : IntegerRange → σ → Reading Nat
  boolean : σ → Reading Bool
  items : σ → Reading (List σ)
  /-- The entries of a mapping; the first argument says what was expected if there is none. -/
  entries : String → σ → Reading (List (σ × σ))
  variant : List String → σ → Reading String
  value : σ → Reading Yaml.Value

abbrev Reader (σ α : Type) := σ → Reading α

def Reader.read {σ α : Type} (reader : Reader σ α) (s : σ) : Except DecodeError α :=
  (reader s).run' 0

variable {σ α : Type} [Source σ]

def fail (at' : σ) (cause : Cause) : Reading α := throw ⟨Source.path at', cause⟩

def text : Reader σ String := Source.text "a string"

def listOf (reader : Reader σ α) : Reader σ (List α) := fun s => do
  (← Source.items s).mapM reader

def dictionaryOf (reader : Reader σ α) : Reader σ (Dictionary α) := fun s => do
  let entries ← (← Source.entries "a map" s).mapM fun (k, v) => do
    return (← text k, ← reader v)
  return Dictionary.ofList entries

def duration : Reader σ Duration := fun s => do
  let written ← Source.text "a duration" s
  match Duration.read? written with
  | some d => return d
  | none => fail s (.wrongValue (.text written) "a duration")

end GameDay.Decode
