/-
This file reads quoted scalars. In single quotes a quote is written twice and nothing else is
escaped. In double quotes a backslash escapes a character, a code point or a line break.
-/

import OperatorDesk.Yaml.Scalar
import OperatorDesk.Text.Digits

namespace OperatorDesk.Yaml

/-- The character that a letter after a backslash stands for. -/
def escapedChar? (c : Char) : Option Char :=
  match c with
  | '0' => some '\x00'
  | 'a' => some '\x07'
  | 'b' => some '\x08'
  | 't' => some '\t'
  | '\t' => some '\t'
  | 'n' => some '\n'
  | 'v' => some '\x0b'
  | 'f' => some '\x0c'
  | 'r' => some '\r'
  | 'e' => some '\x1b'
  | ' ' => some ' '
  | '"' => some '"'
  | '/' => some '/'
  | '\\' => some '\\'
  | 'N' => some (Char.ofNat 0x85)
  | '_' => some (Char.ofNat 0xA0)
  | 'L' => some (Char.ofNat 0x2028)
  | 'P' => some (Char.ofNat 0x2029)
  | _ => none

/-- The number of hexadecimal digits behind a letter that announces a code point. -/
def codeLength? (c : Char) : Option Nat :=
  match c with
  | 'x' => some 2
  | 'u' => some 4
  | 'U' => some 8
  | _ => none

/-- The character with this code point, if it has one. -/
def charOfCode? (code : Nat) : Option Char :=
  if code.isValidChar then some (Char.ofNat code) else none

/-- Reads what stands after a backslash. -/
def readEscape? (cursor : Cursor) : Option (Char × Cursor) :=
  match cursor.rest with
  | [] => none
  | c :: rest =>
    match codeLength? c with
    | some length =>
      if rest.length < length then none
      else do
        let code ← Text.valueIn? 16 (rest.take length)
        let char ← charOfCode? code
        return (char, cursor.advance (1 + length))
    | none => (escapedChar? c).map fun char => (char, cursor.advance 1)

/-- Reads the rest of a scalar in single quotes. -/
def readSingleFrom? : Nat → Cursor → Option (List Char × Cursor)
  | 0, _ => none
  | fuel + 1, cursor =>
    if cursor.seesDocumentMark then none
    else
      match cursor.rest with
      | [] => none
      | '\'' :: '\'' :: _ => do
        let (text, left) ← readSingleFrom? fuel (cursor.advance 2)
        return ('\'' :: text, left)
      | '\'' :: _ => some ([], cursor.advance 1)
      | c :: _ =>
        if isSpace c || isBreak c then do
          let (gap, next) ← WordGap.empty.read? 0 cursor
          let (text, left) ← readSingleFrom? fuel next
          return (gap.text ++ text, left)
        else do
          let (text, left) ← readSingleFrom? fuel (cursor.advance 1)
          return (c :: text, left)

/-- Reads the rest of a scalar in double quotes. -/
def readDoubleFrom? : Nat → Cursor → Option (List Char × Cursor)
  | 0, _ => none
  | fuel + 1, cursor =>
    if cursor.seesDocumentMark then none
    else
      match cursor.rest with
      | [] => none
      | '"' :: _ => some ([], cursor.advance 1)
      | '\\' :: _ =>
        match (cursor.advance 1).readBreak? with
        | some (_, next) => do
          let (gap, next) ← WordGap.escapedBreak.read? 0 next
          let (text, left) ← readDoubleFrom? fuel next
          return (gap.text ++ text, left)
        | none => do
          let (char, next) ← readEscape? (cursor.advance 1)
          let (text, left) ← readDoubleFrom? fuel next
          return (char :: text, left)
      | c :: _ =>
        if isSpace c || isBreak c then do
          let (gap, next) ← WordGap.empty.read? 0 cursor
          let (text, left) ← readDoubleFrom? fuel next
          return (gap.text ++ text, left)
        else do
          let (text, left) ← readDoubleFrom? fuel (cursor.advance 1)
          return (c :: text, left)

/-- Reads a scalar in single quotes from its first quote. -/
def readSingle? (cursor : Cursor) : Option (List Char × Cursor) :=
  readSingleFrom? cursor.rest.length (cursor.advance 1)

/-- Reads a scalar in double quotes from its first quote. -/
def readDouble? (cursor : Cursor) : Option (List Char × Cursor) :=
  readDoubleFrom? cursor.rest.length (cursor.advance 1)

end OperatorDesk.Yaml
