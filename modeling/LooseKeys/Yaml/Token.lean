/-
Module: LooseKeys.Yaml.Token
Purpose: The tokens of a YAML stream.
Main exports: ScalarStyle, Token
-/
import LooseKeys.Yaml.Tag

namespace LooseKeys.Yaml

/-- How a scalar is written. -/
inductive ScalarStyle where
  | plain
  | singleQuoted
  | doubleQuoted
  | literal
  | folded
deriving DecidableEq, Repr, Inhabited

/-- A token.  Block collections have no marks of their own in the text: their starts and ends
follow from indentation, and the key of a simple mapping entry from the colon after it. -/
inductive Token where
  | streamEnd
  | version (major minor : Nat)
  | tagDirective (handle : String) (start : Tag)
  | documentStart
  | documentEnd
  | blockSequenceStart
  | blockMappingStart
  | blockEnd
  | flowSequenceStart
  | flowSequenceEnd
  | flowMappingStart
  | flowMappingEnd
  | blockEntry
  | flowEntry
  | key
  | value
  | alias (name : String)
  | anchor (name : String)
  | tag (handle : String) (suffix : Tag)
  | scalar (text : String) (style : ScalarStyle)
deriving DecidableEq, Repr, Inhabited

end LooseKeys.Yaml
