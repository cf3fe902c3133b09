/-!
# Tokens of a YAML text

The tokens say what the indentation and the indicators of a text mean: where collections start and
end, and which node is a key. The text of a scalar is the one that it stands for.
-/

namespace MakeLint.Yaml

/-- How a scalar is written. -/
inductive Style where
  | plain
  | single
  | double
  | literal
  | folded
  deriving DecidableEq

/-- A token. -/
inductive Token where
  | streamEnd
  /-- The version of YAML that the document asks for. -/
  | version (major minor : Nat)
  /-- What a tag handle of the document is short for. -/
  | tagHandle (handle : List Char) (meaning : List UInt8)
  | documentStart
  | documentEnd
  | blockSequenceStart
  | blockMappingStart
  | blockEnd
  | flowSequenceStart
  | flowSequenceEnd
  | flowMappingStart
  | flowMappingEnd
  | blockEntry
  | flowEntry
  | key
  | value
  | alias (name : List Char)
  | anchor (name : List Char)
  /-- A tag as its handle, empty for a tag written out, and the rest of it. -/
  | tag (handle : List Char) (suffix : List UInt8)
  | scalar (style : Style) (text : List Char)
  deriving DecidableEq

end MakeLint.Yaml
