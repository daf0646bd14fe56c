import GameDay.Target

namespace GameDay

structure Invocation where
  skill : String
  target : Selector
  params : Yaml.Value := .null
  count : Nat := 1

structure Experiment where
  name : String
  skills : List Invocation
  duration : Duration

structure Settings where
  statusInterval : Duration

namespace Settings

def standard : Settings := ⟨⟨5 * 10 ^ 9, by decide⟩⟩

variable {σ : Type} [Decode.Source σ]

def reader : Decode.Reader σ Settings :=
  Decode.record "RunSettings"
    (mk <$> .optional "status_interval" Decode.duration standard.statusInterval)

end Settings

namespace Invocation

variable {σ : Type} [Decode.Source σ]

def reader : Decode.Reader σ Invocation :=
  Decode.record "SkillInvocation"
    (mk <$> .required "skill_name" Decode.text <*> .required "target" Selector.reader <*>
      .optional "params" Decode.Source.value .null <*>
      .optional "count" (Decode.Source.natural .bits32) 1)

end Invocation

namespace Experiment

inductive Status
  | pending
  | discovering
  | executing
  | waiting
  | rollingBack
  | completed
  | failed (reason : String)
deriving DecidableEq

def Status.label : Status → String
  | pending => "pending"
  | discovering => "discovering"
  | executing => "executing"
  | waiting => "waiting"
  | rollingBack => "rolling back"
  | completed => "completed"
  | failed reason => "failed: " ++ reason

def initialStatus : Status := .pending

variable {σ : Type} [Decode.Source σ]

def reader : Decode.Reader σ Experiment :=
  Decode.record "ExperimentConfig"
    (mk <$> .required "name" Decode.text <*>
      .required "skills" (Decode.listOf Invocation.reader) <*>
      .required "duration" Decode.duration)

end Experiment

end GameDay
