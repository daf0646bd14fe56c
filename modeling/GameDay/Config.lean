import GameDay.Decode.OfDocument
import GameDay.Error
import GameDay.Experiment.Basic

namespace GameDay

structure Config where
  /-- How to reach the targets, in the form that the agent reads. -/
  targetConfig : Yaml.Value
  settings : Settings := .standard
  experiments : List Experiment := []

namespace Config

variable {σ : Type} [Decode.Source σ]

def reader : Decode.Reader σ Config :=
  Decode.record "ChaosConfig"
    (mk <$> .required "target_config" Decode.Source.value <*>
      .optional "settings" Settings.reader .standard <*>
      .optional "experiments" (Decode.listOf Experiment.reader) [])

def unreadable : String := "<yaml>"

def decodeError (e : Option DecodeError) : Error :=
  .config ("Invalid YAML: " ++ match e with
    | some e => e.located
    | none => unreadable)

def ofText (text : String) : Except Error Config :=
  (Decode.ofText reader text).mapError decodeError

def ofValue (v : Yaml.Value) : Except Error Config :=
  match Yaml.Node.ofValue? v with
  | some root => (Decode.ofDocument reader (.ofRoot root)).mapError decodeError
  | none => .error (decodeError none)

end Config

end GameDay
