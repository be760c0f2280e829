/-! # The tokens of a YAML text

Besides what is written in a text, tokens mark where collections start and end that are
written by indentation alone, and which nodes are the keys of mappings.
-/
namespace PairQuote.Yaml

/-- A part of a text. -/
inductive Token where
  | streamEnd
  | versionDirective
  | tagDirective (handle replacement : String)
  | documentStart
  | documentEnd
  | blockSequenceStart
  | blockMappingStart
  | blockEnd
  | flowSequenceStart
  | flowSequenceEnd
  | flowMappingStart
  | flowMappingEnd
  | blockEntry
  | flowEntry
  | key
  | value
  | alias (name : String)
  /-- The name of a node, and the column it starts at. -/
  | anchor (name : String) (column : Nat)
  /-- The type of a node, and the column it starts at. -/
  | tag (handle suffix : String) (column : Nat)
  | scalar (plain : Bool) (text : String)
  deriving DecidableEq, Repr, Inhabited

end PairQuote.Yaml
