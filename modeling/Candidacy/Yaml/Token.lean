/-!
# Tokens

What a YAML text consists of: marks, names and scalars. Block structure, which the text expresses by
indentation, has tokens of its own for its starts and ends.
-/

namespace Candidacy.Yaml

inductive Token where
  | version (major : Nat)
  | tagHandle (handle stem : String)
  | otherDirective
  | documentStart
  | documentEnd
  | streamEnd
  | blockSequenceStart
  | blockMappingStart
  | blockEnd
  | flowSequenceStart
  | flowSequenceEnd
  | flowMappingStart
  | flowMappingEnd
  | blockEntry
  | flowEntry
  | key
  | value
  | reference (name : String)
  | anchor (name : String)
  | tag (handle : Option String) (suffix : String)
  | scalar (text : String) (plain : Bool)
  deriving DecidableEq, Repr

end Candidacy.Yaml
