import CqlSchema.Yaml.Scalar
/-!
# Tokens of a YAML text

The pieces that a YAML text is cut into. Besides what is written there are marks that follow
from the layout: where a block collection starts and ends, and which node is a key.
-/

namespace CqlSchema.Yaml

/-- Tokens, in the order in which they occur in a text. -/
inductive Token where
  | versionDirective (major minor : Nat)
  | tagDirective (handle : List Char) (start : List UInt8)
  | documentStart
  | documentEnd
  | blockSequenceStart
  | blockMappingStart
  | blockEnd
  | flowSequenceStart
  | flowSequenceEnd
  | flowMappingStart
  | flowMappingEnd
  | blockEntry
  | flowEntry
  | key
  | value
  | alias (name : String)
  | anchor (name : String)
  | tag (handle : List Char) (suffix : List UInt8)
  | scalar (style : Style) (text : String)
  deriving Repr, DecidableEq

end CqlSchema.Yaml
