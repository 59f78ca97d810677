/-
This file writes texts in double quotes, for diagnostic output. Quotes, backslashes and the usual
controls are escaped by a letter; what has no picture of its own is written as a code point.
-/

import OperatorDesk.Text.Property

namespace OperatorDesk.Text

/-- The code point of a character in hexadecimal. -/
def codePoint (c : Char) : String :=
  "\\u\x7b" ++ String.ofList (Nat.toDigits 16 c.toNat) ++ "\x7d"

/-- The character extends the one before it; skin tones stand alone as well. -/
def isMark (c : Char) : Bool :=
  Property.extending.holds c && !(0x1F3FB ≤ c.toNat && c.toNat ≤ 0x1F3FF)

/-- One character as it stands between quotes. -/
def escaped (c : Char) : String :=
  if c = '"' then "\\\""
  else if c = '\\' then "\\\\"
  else if c = '\t' then "\\t"
  else if c = '\r' then "\\r"
  else if c = '\n' then "\\n"
  else if c.toNat = 0 then "\\0"
  else if isMark c || Property.unprintable.holds c then codePoint c
  else String.singleton c

/-- The text in double quotes. -/
def quoted (text : String) : String :=
  "\"" ++ String.join (text.toList.map escaped) ++ "\""

/-- An optional text as a diagnostic value. -/
def quotedOption : Option String → String
  | some text => "Some(" ++ quoted text ++ ")"
  | none => "None"

/-- A list of texts as a diagnostic value. -/
def quotedList (texts : List String) : String :=
  "[" ++ ", ".intercalate (texts.map quoted) ++ "]"

end OperatorDesk.Text
