namespace GameDay.Yaml

/-- Whether a scalar is written without quotes, in quotes, or as a block that keeps line breaks. -/
inductive Style
  | plain
  | quoted
  | literal
  | folded
deriving DecidableEq

inductive Token
  | version (major minor : Nat)
  | tagDirective (handle : String) (replacement : List UInt8)
  | documentStart
  | documentEnd
  | sequenceStart
  | mappingStart
  | blockEnd
  | flowSequenceStart
  | flowSequenceEnd
  | flowMappingStart
  | flowMappingEnd
  | blockEntry
  | flowEntry
  | key
  | value
  | alias (name : String)
  | anchor (name : String)
  | tag (handle : String) (suffix : List UInt8)
  | scalar (text : String) (style : Style)
  | streamEnd
deriving DecidableEq

end GameDay.Yaml
