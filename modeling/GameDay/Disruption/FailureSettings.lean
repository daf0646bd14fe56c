import GameDay.Decode.OfValue
import GameDay.Error
import GameDay.Text.Json

namespace GameDay.Disruption

open Yaml (Value)
open Text (Json)
open Decode (Fields IntegerRange Source)

inductive FailureMode
  | latency
  | exception
  | statusCode
  | diskSpace
  | denylist
deriving DecidableEq

namespace FailureMode

def all : List FailureMode := [latency, exception, statusCode, diskSpace, denylist]

def name : FailureMode → String
  | latency => "latency"
  | exception => "exception"
  | statusCode => "statuscode"
  | diskSpace => "diskspace"
  | denylist => "denylist"

def reader : Decode.Reader Value FailureMode := fun v => do
  let name ← Source.variant (all.map FailureMode.name) v
  return (all.find? (·.name = name)).getD latency

end FailureMode

structure FailureSettings where
  mode : FailureMode
  rate : Binary64
  minLatency : Option Nat
  maxLatency : Option Nat
  exceptionMessage : Option String
  statusCode : Option Nat
  diskSpace : Option Nat
  denylist : List String
deriving DecidableEq

namespace FailureSettings

def fullRate : Binary64 := .ofInt 1

def maybe {α : Type} (name : String) (reader : Decode.Reader Value α) : Fields Value (Option α) :=
  .optional name (Decode.OfValue.option reader) none

def reader : Decode.Reader Value FailureSettings :=
  Decode.strictRecord "LambdaFailureParams"
    (mk <$> .required "failure_mode" FailureMode.reader <*>
      .optional "rate" Decode.OfValue.real fullRate <*>
      maybe "min_latency" (Source.natural .bits64) <*>
      maybe "max_latency" (Source.natural .bits64) <*>
      maybe "exception_msg" Decode.text <*>
      maybe "status_code" (Source.natural .bits16) <*>
      maybe "disk_space" (Source.natural .bits32) <*>
      .optional "denylist" (Decode.listOf Decode.text) [])

inductive Problem
  | rate (x : Binary64)
  | latencyOrder
  | noLatency
  | invalidStatusCode (code : Nat)
  | noStatusCode
  | noDiskSpace
  | noPattern
deriving DecidableEq

def Problem.message : Problem → String
  | rate x => "rate must be between 0 and 1, got " ++ Decimal.plain x
  | latencyOrder => "min_latency must not exceed max_latency"
  | noLatency => "latency mode needs min_latency and max_latency"
  | invalidStatusCode code => "invalid status_code " ++ toString code
  | noStatusCode => "statuscode mode needs status_code"
  | noDiskSpace => "diskspace mode needs a positive disk_space"
  | noPattern => "denylist mode needs at least one denylist pattern"

def modeProblem? (s : FailureSettings) : Option Problem :=
  match s.mode with
  | .latency => match s.minLatency, s.maxLatency with
    | some least, some most => if least ≤ most then none else some .latencyOrder
    | _, _ => some .noLatency
  | .exception => none
  | .statusCode => match s.statusCode with
    | some code => if 100 ≤ code ∧ code ≤ 599 then none else some (.invalidStatusCode code)
    | none => some .noStatusCode
  | .diskSpace => match s.diskSpace with
    | some space => if 0 < space then none else some .noDiskSpace
    | none => some .noDiskSpace
  | .denylist => if s.denylist = [] then some .noPattern else none

def problem? (s : FailureSettings) : Option Problem :=
  if s.rate.inUnitInterval then s.modeProblem? else some (.rate s.rate)

def skillName : String := "aws.lambda.inject_failure"

def invalid (why : String) : Error := .config ("Invalid " ++ skillName ++ " params: " ++ why)

def ofParams (params : Value) : Except Error FailureSettings := do
  let settings ← (reader.read params).mapError fun e => invalid e.message
  match settings.problem? with
  | none => return settings
  | some problem => throw (invalid problem.message)

def given {α : Type} (name : String) (form : α → Json) : Option α → List (String × Json)
  | none => []
  | some a => [(name, form a)]

def toJson (s : FailureSettings) : Json :=
  .record <|
    [("isEnabled", .boolean true), ("failureMode", .text s.mode.name), ("rate", .real s.rate)] ++
    given "minLatency" .natural s.minLatency ++
    given "maxLatency" .natural s.maxLatency ++
    given "exceptionMsg" .text s.exceptionMessage ++
    given "statusCode" .natural s.statusCode ++
    given "diskSpace" .natural s.diskSpace ++
    if s.denylist = [] then [] else [("denylist", .list (s.denylist.map .text))]

def document (s : FailureSettings) : String := s.toJson.write Json.compact 0

end FailureSettings

end GameDay.Disruption
