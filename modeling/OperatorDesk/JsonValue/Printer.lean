/-
This file writes JSON on one line without gaps. Quotes, backslashes and controls are escaped, a
control by its letter if it has one; all else stands as it is.
-/

import OperatorDesk.JsonValue
import OperatorDesk.Text.Digits

namespace OperatorDesk.JsonValue

/-- A digit below sixteen. -/
def hexDigit (value : Nat) : Char :=
  if value < 10 then Char.ofNat ('0'.toNat + value) else Char.ofNat ('a'.toNat + (value - 10))

/-- A character as it is written in a string. -/
def escaped (c : Char) : List Char :=
  match c with
  | '"' => ['\\', '"']
  | '\\' => ['\\', '\\']
  | '\x08' => ['\\', 'b']
  | '\x0c' => ['\\', 'f']
  | '\n' => ['\\', 'n']
  | '\r' => ['\\', 'r']
  | '\t' => ['\\', 't']
  | c =>
    if c.toNat < 0x20 then
      ['\\', 'u', '0', '0', hexDigit (c.toNat / 16), hexDigit (c.toNat % 16)]
    else [c]

/-- A string as it is written. One without content is written as half of a surrogate pair. -/
def contentChars : Option String → List Char
  | some content => '"' :: content.toList.flatMap escaped ++ ['"']
  | none => ['"', '\\', 'u', 'd', '8', '0', '0', '"']

mutual

/-- The value as it is written. -/
def chars : JsonValue → List Char
  | .null => ['n', 'u', 'l', 'l']
  | .bool true => ['t', 'r', 'u', 'e']
  | .bool false => ['f', 'a', 'l', 's', 'e']
  | .number literal => literal
  | .string content => contentChars content
  | .array [] => ['[', ']']
  | .array (item :: items) => '[' :: (item.chars ++ itemChars items)
  | .object [] => ['{', '}']
  | .object ((name, value) :: members) =>
    '{' :: (contentChars name ++ ':' :: (value.chars ++ memberChars members))

/-- The items after the first, and the closing bracket. -/
def itemChars : List JsonValue → List Char
  | [] => [']']
  | item :: items => ',' :: (item.chars ++ itemChars items)

/-- The members after the first, and the closing brace. -/
def memberChars : List (Option String × JsonValue) → List Char
  | [] => ['}']
  | (name, value) :: members =>
    ',' :: (contentChars name ++ ':' :: (value.chars ++ memberChars members))

end

/-- The text of the value. -/
def text (value : JsonValue) : String :=
  String.ofList value.chars

end OperatorDesk.JsonValue
