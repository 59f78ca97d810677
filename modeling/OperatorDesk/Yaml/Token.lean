/-
This file defines the marks and words of a YAML text. The bounds of block collections, which are
written by indentation alone, are marks of their own.
-/

import OperatorDesk.Yaml.Scalar

namespace OperatorDesk.Yaml

/-- A mark or word of a text. -/
inductive Token where
  | version (major minor : Nat)
  /-- What the tags with this handle begin with. -/
  | handle (name start : List Char)
  | documentStart
  | documentEnd
  | blockSequenceStart
  | blockMappingStart
  | blockEnd
  | flowSequenceStart
  | flowSequenceEnd
  | flowMappingStart
  | flowMappingEnd
  | blockEntry
  | flowEntry
  | key
  | value
  | alias (name : List Char)
  | anchor (name : List Char)
  /-- A tag; without a handle the rest is the whole tag. -/
  | tag (handle rest : List Char)
  | scalar (style : ScalarStyle) (text : List Char)
  deriving DecidableEq, Repr

end OperatorDesk.Yaml
