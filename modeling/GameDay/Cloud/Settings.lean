import GameDay.Cloud.Access
import GameDay.Decode.OfValue

namespace GameDay.Cloud

open Yaml (Value)
open Decode (Fields record)

/-- A region of an account, and the profile with the credentials for it, if not the usual ones. -/
structure AccessSettings where
  account : String
  region : String
  profile : Option String
deriving DecidableEq

structure DiscoverySettings where
  lambda : Bool := true
  nodeGroup : Bool := true
  broker : Bool := true
  template : Bool := true
deriving DecidableEq

namespace DiscoverySettings

def isEnabled (d : DiscoverySettings) : TargetKind → Bool
  | .lambda => d.lambda
  | .nodeGroup => d.nodeGroup
  | .broker => d.broker
  | .template => d.template

def kinds (d : DiscoverySettings) : List TargetKind := TargetKind.all.filter d.isEnabled

end DiscoverySettings

structure Settings where
  accesses : List AccessSettings
  poolSize : Nat
  discovery : DiscoverySettings
deriving DecidableEq

namespace Settings

def standardPoolSize : Nat := 4

def accessReader : Decode.Reader Value AccessSettings :=
  record "AccessConfig"
    (AccessSettings.mk <$> .required "account" Decode.text <*> .required "region" Decode.text <*>
      .optional "profile" (Decode.OfValue.option Decode.text) none)

def enabledReader (name : String) : Fields Value Bool :=
  .optional name Decode.Source.boolean true

def discoveryReader : Decode.Reader Value DiscoverySettings :=
  record "DiscoveryConfig"
    (DiscoverySettings.mk <$> enabledReader "lambda" <*> enabledReader "elasticache" <*>
      enabledReader "msk" <*> enabledReader "fis")

def reader : Decode.Reader Value Settings :=
  record "AwsTargetConfig"
    (mk <$> .required "accesses" (Decode.listOf accessReader) <*>
      .optional "worker_pool_size" (Decode.Source.natural .size) standardPoolSize <*>
      .optional "discovery" discoveryReader {})

def ofValue (v : Value) : Except Error Settings :=
  (reader.read v).mapError fun e => .config ("Invalid AWS config: " ++ e.message)

/-- The accesses, numbered in order. -/
def registry (settings : Settings) : Registry :=
  ⟨settings.accesses.zipIdx.map fun (a, number) =>
    { number, account := a.account, region := a.region, profile := a.profile }⟩

end Settings

end GameDay.Cloud
