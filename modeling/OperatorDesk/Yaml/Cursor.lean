/-
This file defines a place in a text that is being read, with the text that is left and the line
and column of the place. Lines and columns count from zero; a column is a character.
-/

import OperatorDesk.Yaml.Character

namespace OperatorDesk.Yaml

/-- A place in a text. -/
structure Cursor where
  /-- The text from here on. -/
  rest : List Char
  /-- The number of characters before this place. -/
  index : Nat
  line : Nat
  column : Nat
  deriving DecidableEq, Repr

namespace Cursor

/-- The beginning of a text. -/
def start (chars : List Char) : Cursor :=
  { rest := chars, index := 0, line := 0, column := 0 }

/-- Goes over characters of the same line. -/
def advance (cursor : Cursor) (count : Nat) : Cursor :=
  { cursor with rest := cursor.rest.drop count, index := cursor.index + count
                column := cursor.column + count }

/-- Goes over a line break of one or two characters. -/
def breakLine (cursor : Cursor) (width : Nat) : Cursor :=
  { rest := cursor.rest.drop width, index := cursor.index + width, line := cursor.line + 1
    column := 0 }

/-- The first characters with the property. -/
def peek (cursor : Cursor) (holds : Char → Bool) : List Char :=
  cursor.rest.takeWhile holds

/-- Goes over the first characters with the property. -/
def skip (cursor : Cursor) (holds : Char → Bool) : Cursor :=
  cursor.advance (cursor.peek holds).length

/-- The next character is this one. -/
def sees (cursor : Cursor) (c : Char) : Bool :=
  cursor.rest.head? == some c

/-- Reads a line break. Line and paragraph separators stay what they are, all others count as a
line feed. -/
def readBreak? (cursor : Cursor) : Option (Char × Cursor) :=
  match cursor.rest with
  | '\r' :: '\n' :: _ => some ('\n', cursor.breakLine 2)
  | c :: _ =>
    if c.toNat = 0x2028 ∨ c.toNat = 0x2029 then some (c, cursor.breakLine 1)
    else if isBreak c then some ('\n', cursor.breakLine 1)
    else none
  | [] => none

/-- Goes over the rest of the line if it is blank or a comment, and over its line break. -/
def skipLineEnd? (cursor : Cursor) : Option Cursor :=
  let cursor := cursor.skip isSpace
  let cursor := if cursor.sees '#' then cursor.skip (!isBreak ·) else cursor
  if endsLine cursor.rest then
    match cursor.readBreak? with
    | some (_, next) => some next
    | none => some cursor
  else none

/-- A line begins here with three of this character and nothing else in the word. -/
def seesMark (cursor : Cursor) (c : Char) : Bool :=
  match cursor.column, cursor.rest with
  | 0, a :: b :: d :: rest => a == c && b == c && d == c && endsWord rest
  | _, _ => false

/-- A document begins or ends here. -/
def seesDocumentMark (cursor : Cursor) : Bool :=
  cursor.seesMark '-' || cursor.seesMark '.'

end Cursor

end OperatorDesk.Yaml
