import AsnLexis.Yaml.Cursor

/-! Tokens of a YAML text. -/

namespace AsnLexis.Yaml

inductive Sign where
  | streamStart
  | streamEnd
  | versionDirective (major minor : Nat)
  | tagDirective (handle lead : Bytes)
  | documentStart
  | documentEnd
  | blockSequenceStart
  | blockMappingStart
  | blockEnd
  | flowSequenceStart
  | flowSequenceEnd
  | flowMappingStart
  | flowMappingEnd
  | blockEntry
  | flowEntry
  | key
  | value
  | reference (name : Bytes)
  | anchor (name : Bytes)
  | tag (handle suffix : Bytes)
  /-- A scalar that is not plain is a string. -/
  | scalar (plain : Bool) (text : Bytes)
  deriving DecidableEq, Repr

structure Token where
  mark : Mark
  sign : Sign
  deriving DecidableEq, Repr

end AsnLexis.Yaml
