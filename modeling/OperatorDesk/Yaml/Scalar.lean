/-
This file defines the styles of scalars, and what stands between two words of a plain or quoted
scalar. Spaces within a line are kept. Of the line breaks between two lines the first is folded:
alone it counts as a space, and before others it counts as nothing.
-/

import OperatorDesk.Yaml.Cursor

namespace OperatorDesk.Yaml

/-- How a scalar is written. -/
inductive ScalarStyle where
  | plain
  | singleQuoted
  | doubleQuoted
  | literal
  | folded
  deriving DecidableEq, Repr

/-- What stands between two words. -/
structure WordGap where
  /-- The spaces before the first line break. -/
  spaces : List Char
  /-- A line was ended. -/
  broken : Bool
  /-- The first line break, unless it was escaped. -/
  first : Option Char
  /-- The line breaks after the first. -/
  more : List Char
  deriving DecidableEq, Repr

namespace WordGap

/-- No gap. -/
def empty : WordGap :=
  { spaces := [], broken := false, first := none, more := [] }

/-- The gap after an escaped line break. -/
def escapedBreak : WordGap :=
  { empty with broken := true }

/-- What the gap stands for in the scalar. -/
def text (gap : WordGap) : List Char :=
  if gap.broken then
    match gap.first with
    | some '\n' => if gap.more.isEmpty then [' '] else gap.more
    | some c => c :: gap.more
    | none => gap.more
  else gap.spaces

/-- Continues a gap up to the next word. On a line after the first no tab may stand in a column
before the given one. -/
def continued (indent : Nat) : Nat → WordGap → Cursor → Option (WordGap × Cursor)
  | 0, gap, cursor => some (gap, cursor)
  | fuel + 1, gap, cursor =>
    match cursor.readBreak? with
    | some (c, next) =>
      if gap.broken then continued indent fuel { gap with more := gap.more ++ [c] } next
      else
        continued indent fuel { spaces := [], broken := true, first := some c, more := [] } next
    | none =>
      match cursor.rest with
      | c :: _ =>
        if isSpace c then
          if gap.broken then
            if c = '\t' ∧ cursor.column < indent then none
            else continued indent fuel gap (cursor.advance 1)
          else continued indent fuel { gap with spaces := gap.spaces ++ [c] } (cursor.advance 1)
        else some (gap, cursor)
      | [] => some (gap, cursor)

/-- Continues a gap up to the next word. -/
def read? (indent : Nat) (gap : WordGap) (cursor : Cursor) : Option (WordGap × Cursor) :=
  continued indent cursor.rest.length gap cursor

end WordGap

end OperatorDesk.Yaml
