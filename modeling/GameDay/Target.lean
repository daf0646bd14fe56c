import GameDay.Decode.OfValue

namespace GameDay

inductive TargetKind
  | lambda
  | nodeGroup
  | broker
  | template
deriving DecidableEq

namespace TargetKind

def all : List TargetKind := [lambda, nodeGroup, broker, template]

def name : TargetKind → String
  | lambda => "lambda"
  | nodeGroup => "elasticache_node_group"
  | broker => "msk_broker"
  | template => "fis_template"

def shortName : TargetKind → String
  | lambda => "lambda"
  | nodeGroup => "elasticache"
  | broker => "msk"
  | template => "fis"

def typeName : TargetKind → String
  | lambda => "com.chaos.aws.lambda"
  | nodeGroup => "com.chaos.aws.elasticache.node-group"
  | broker => "com.chaos.aws.msk.broker"
  | template => "com.chaos.aws.fis.experiment-template"

def rank : TargetKind → Nat
  | lambda => 0
  | nodeGroup => 1
  | broker => 2
  | template => 3

def ofName? (name : String) : Option TargetKind := all.find? (·.name = name)

def ofShortName? (name : String) : Option TargetKind :=
  all.find? fun k => k.shortName = name ∨ k.name = name

variable {σ : Type} [Decode.Source σ]

def reader : Decode.Reader σ TargetKind := fun s => do
  let name ← Decode.Source.variant (all.map TargetKind.name) s
  return (ofName? name).getD lambda

end TargetKind

structure Target where
  id : String
  label : String
  kind : TargetKind
  attributes : Dictionary (List String) := .empty
deriving DecidableEq

namespace Target

def accountKey : String := "aws.account"

def regionKey : String := "aws.region"

/-- Adds a value to an attribute. Empty values are left out. -/
def add (t : Target) (key value : String) : Target :=
  if value = "" then t
  else
    let values := (t.attributes.get? key).getD []
    { t with attributes := t.attributes.insert key (values ++ [value]) }

def addOption (t : Target) (key : String) : Option String → Target
  | none => t
  | some value => t.add key value

def attribute? (t : Target) (key : String) : Option String :=
  (t.attributes.get? key).bind List.head?

def account? (t : Target) : Option String := t.attribute? accountKey

def region? (t : Target) : Option String := t.attribute? regionKey

def metadata (t : Target) : Yaml.Value :=
  .record (t.attributes.entries.map fun (k, values) => (k, .sequence (values.map .text)))

variable {σ : Type} [Decode.Source σ]

def fields : Decode.Fields σ Target :=
  mk <$> .required "id" Decode.text <*> .required "label" Decode.text <*>
    .required "kind" TargetKind.reader <*>
    .required "attributes" (Decode.dictionaryOf (Decode.listOf Decode.text))

def reader : Decode.Reader σ Target := Decode.record "Target" fields

end Target

structure Selector where
  kind : TargetKind
  attributes : Dictionary String := .empty
deriving DecidableEq

namespace Selector

def idKey : String := "id"

def holds (t : Target) (key value : String) : Bool :=
  if key = idKey then t.id = value
  else match t.attributes.get? key with
    | some values => decide (value ∈ values)
    | none => false

def admits (s : Selector) (t : Target) : Bool :=
  t.kind = s.kind && s.attributes.entries.all fun (key, value) => holds t key value

def select (s : Selector) (targets : List Target) : List Target := targets.filter s.admits

def text (s : Selector) : String :=
  s.kind.shortName ++ String.join (s.attributes.entries.map fun (k, v) => " " ++ k ++ "=" ++ v)

variable {σ : Type} [Decode.Source σ]

def fields : Decode.Fields σ Selector :=
  mk <$> .required "kind" TargetKind.reader <*>
    .optional "attributes" (Decode.dictionaryOf Decode.text) .empty

def reader : Decode.Reader σ Selector := Decode.record "TargetSelector" fields

end Selector

end GameDay
