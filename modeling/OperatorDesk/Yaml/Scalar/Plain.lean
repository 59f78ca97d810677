/-
This file reads plain scalars. A plain scalar goes on over spaces and line breaks until a comment,
a colon before the end of a word, a mark of the flow collection that it stands in, a document
mark, or a line that is not indented enough.
-/

import OperatorDesk.Yaml.Scalar

namespace OperatorDesk.Yaml

/-- A plain scalar as it was read. -/
structure PlainScalar where
  text : List Char
  /-- A line was ended behind the last word. -/
  broken : Bool
  /-- The place behind the scalar and the gap after it. -/
  cursor : Cursor
  deriving DecidableEq, Repr

/-- The characters that may not follow a colon in a flow collection. -/
def isFlowMarkOrQuery (c : Char) : Bool :=
  isFlowMark c || c == '?'

/-- The next word of a plain scalar; fails where a colon of a flow collection is misplaced. -/
def plainWord? (inFlow : Bool) : List Char → Option (List Char)
  | [] => some []
  | c :: rest =>
    if isSpace c || isBreak c then some []
    else if inFlow && c == ':' && (rest.head?.map isFlowMarkOrQuery).getD false then none
    else if (c == ':' && endsWord rest) || (inFlow && isFlowMark c) then some []
    else (plainWord? inFlow rest).map (c :: ·)

/-- Reads the rest of a plain scalar after a gap. -/
def readPlainFrom? (inFlow : Bool) (indent : Nat) :
    Nat → WordGap → Cursor → Option PlainScalar
  | 0, _, _ => none
  | fuel + 1, gap, cursor =>
    if cursor.seesDocumentMark || cursor.sees '#' then
      some { text := [], broken := gap.broken, cursor }
    else do
      let word ← plainWord? inFlow cursor.rest
      let text := if word.isEmpty then [] else gap.text ++ word
      let gap := if word.isEmpty then gap else .empty
      let cursor := cursor.advance word.length
      if cursor.rest.isEmpty || !endsWord cursor.rest then
        return { text, broken := gap.broken, cursor }
      else
        let (gap, cursor) ← gap.read? indent cursor
        if !inFlow && cursor.column < indent then
          return { text, broken := gap.broken, cursor }
        else
          let more ← readPlainFrom? inFlow indent fuel gap cursor
          return { more with text := text ++ more.text }

/-- Reads a plain scalar. Each round reads a character, so the length of the text is enough. -/
def readPlain? (inFlow : Bool) (indent : Nat) (cursor : Cursor) : Option PlainScalar :=
  readPlainFrom? inFlow indent (cursor.rest.length + 1) .empty cursor

end OperatorDesk.Yaml
