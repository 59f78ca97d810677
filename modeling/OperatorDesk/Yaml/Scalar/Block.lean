/-
This file reads block scalars. The indentation of a block scalar is announced or is that of its
widest line before the text begins, and at least one more than around it. A literal scalar keeps
its line breaks. In a folded scalar the line break between two lines that do not begin with a
space is folded. The line breaks at the end are kept, dropped, or dropped but for one.
-/

import OperatorDesk.Yaml.Scalar
import OperatorDesk.Text.Digits

namespace OperatorDesk.Yaml

/-- What becomes of the line breaks at the end. -/
inductive Chomping where
  /-- All are dropped. -/
  | strip
  /-- The first is kept. -/
  | clip
  /-- All are kept. -/
  | keep
  deriving DecidableEq, Repr

/-- The chomping that a mark announces. -/
def chomping? (c : Char) : Option Chomping :=
  if c = '+' then some .keep else if c = '-' then some .strip else none

/-- The digit of an indentation; zero is none. -/
def indentation? (c : Char) : Option Nat :=
  if c.isDigit then some (Text.digitValue c) else none

/-- Reads a mark for the chomping, if there is one. -/
def readChomping (cursor : Cursor) : Option Chomping × Cursor :=
  match cursor.rest.head?.bind chomping? with
  | some chomping => (some chomping, cursor.advance 1)
  | none => (none, cursor)

/-- Reads a digit for the indentation, if there is one. -/
def readIndentation (cursor : Cursor) : Option Nat × Cursor :=
  match cursor.rest.head?.bind indentation? with
  | some digit => (some digit, cursor.advance 1)
  | none => (none, cursor)

/-- Reads the marks of a block scalar, in either order, and the rest of their line. The
indentation may not be zero. -/
def readHeader? (cursor : Cursor) : Option (Chomping × Option Nat × Cursor) := do
  let (before, cursor) := readChomping cursor
  let (indentation, cursor) := readIndentation cursor
  let (after, cursor) :=
    if before.isNone && indentation.isSome then readChomping cursor else (none, cursor)
  if indentation = some 0 then none
  else return ((before.or after).getD .clip, indentation, ← cursor.skipLineEnd?)

/-- The next character is a space or a tab. -/
def seesSpace (cursor : Cursor) : Bool :=
  (cursor.rest.head?.map isSpace).getD false

/-- The column belongs to an indentation; without one every column does. -/
def isInside : Option Nat → Nat → Bool
  | some indent, column => column < indent
  | none, _ => true

/-- Goes over empty lines and over the spaces of an indentation. Without an indentation all
spaces are gone over. Gives the line breaks and the widest column. -/
def readEmptyLines? (indentation : Option Nat) :
    Nat → Nat → Cursor → Option (List Char × Nat × Cursor)
  | 0, _, _ => none
  | fuel + 1, widest, cursor =>
    let spaces := (cursor.peek (· == ' ')).length
    let cursor := cursor.advance (match indentation with
      | some indent => min spaces (indent - cursor.column)
      | none => spaces)
    let widest := max widest cursor.column
    if isInside indentation cursor.column && cursor.sees '\t' then none
    else
      match cursor.readBreak? with
      | some (c, next) => do
        let (breaks, widest, cursor) ← readEmptyLines? indentation fuel widest next
        return (c :: breaks, widest, cursor)
      | none => some ([], widest, cursor)

/-- What a block scalar ends with. -/
structure BlockEnd where
  /-- The break of the last line. -/
  last : Option Char
  /-- The breaks of the empty lines after it. -/
  more : List Char
  cursor : Cursor
  deriving DecidableEq, Repr

/-- The line breaks that are kept at the end. -/
def BlockEnd.kept (blockEnd : BlockEnd) : Chomping → List Char
  | .strip => []
  | .clip => blockEnd.last.toList
  | .keep => blockEnd.last.toList ++ blockEnd.more

/-- What the break of a line stands for before the next line. The break is folded in a folded
scalar if neither line begins with a space. -/
def joint (folded spacedBefore spacedAfter : Bool) (last : Option Char) (more : List Char) :
    List Char :=
  if folded && last == some '\n' && !spacedBefore && !spacedAfter then
    if more.isEmpty then [' '] else more
  else last.toList ++ more

/-- Reads the lines of a block scalar, given the breaks before them and whether the line before
began with a space. -/
def readLines? (folded : Bool) (indent : Nat) :
    Nat → Bool → Option Char → List Char → Cursor → Option (List Char × BlockEnd)
  | 0, _, _, _, _ => none
  | fuel + 1, spaced, last, more, cursor =>
    if cursor.column = indent ∧ !cursor.rest.isEmpty then do
      let here := seesSpace cursor
      let line := cursor.peek (!isBreak ·)
      let cursor := cursor.advance line.length
      let (next, cursor) := match cursor.readBreak? with
        | some (c, next) => (some c, next)
        | none => (none, cursor)
      let (breaks, _, cursor) ←
        readEmptyLines? (some indent) (cursor.rest.length + 1) 0 cursor
      let (text, blockEnd) ← readLines? folded indent fuel here next breaks cursor
      return (joint folded spaced here last more ++ line ++ text, blockEnd)
    else some ([], { last, more, cursor })

/-- Reads a block scalar from its mark, given the indentation around it. -/
def readBlock? (folded : Bool) (around : Option Nat) (cursor : Cursor) :
    Option (List Char × Cursor) := do
  let (chomping, announced, cursor) ← readHeader? (cursor.advance 1)
  let indentation := announced.map (· + around.getD 0)
  let (breaks, widest, cursor) ← readEmptyLines? indentation (cursor.rest.length + 1) 0 cursor
  let indent := indentation.getD (max widest (max 1 ((around.map (· + 1)).getD 0)))
  let (text, blockEnd) ← readLines? folded indent (cursor.rest.length + 1) false none breaks cursor
  return (text ++ blockEnd.kept chomping, blockEnd.cursor)

end OperatorDesk.Yaml
