/-
This file defines JSON values. Strings and names of members can hold escapes that make up no
text, such as half of a surrogate pair; they are kept as strings without content, since a value
that nobody looks at may hold them. Numbers are kept as they are written.
-/

import OperatorDesk.Text.Digits

namespace OperatorDesk

/-- A JSON value. -/
inductive JsonValue where
  | null
  | bool (value : Bool)
  /-- A number as it is written. -/
  | number (literal : List Char)
  /-- A string; without content if its escapes make up no text. -/
  | string (content : Option String)
  | array (items : List JsonValue)
  /-- The members in the order in which they are written. -/
  | object (members : List (Option String × JsonValue))
  deriving Repr

namespace JsonValue

/-- A string with this content. -/
def ofText (text : String) : JsonValue := .string (some text)

/-- A natural number. -/
def ofNat (number : Nat) : JsonValue := .number (Nat.toDigits 10 number)

/-- The texts as an array of strings. -/
def ofTexts (texts : List String) : JsonValue := .array (texts.map ofText)

/-- An object with these members. -/
def record (members : List (String × JsonValue)) : JsonValue :=
  .object (members.map fun (name, value) => (some name, value))

/-- The content of a string. -/
def text? : JsonValue → Option String
  | .string content => content
  | _ => none

/-- The value of a truth value. -/
def bool? : JsonValue → Option Bool
  | .bool value => some value
  | _ => none

/-- The value of a number that is written with digits only and does not exceed the limit. -/
def nat? (limit : Nat) : JsonValue → Option Nat
  | .number literal =>
    if literal.all Char.isDigit && Text.valueOfDigits literal ≤ limit then
      some (Text.valueOfDigits literal)
    else none
  | _ => none

/-- The contents of an array of strings. -/
def texts? : JsonValue → Option (List String)
  | .array items => items.mapM text?
  | _ => none

/-- A value that may be null. -/
def orNull? {Value : Type} (decode : JsonValue → Option Value) : JsonValue → Option (Option Value)
  | .null => some none
  | value => (decode value).map some

/-! ### Records -/

/-- The values of the members with this name. -/
def membersNamed (name : String) (members : List (Option String × JsonValue)) : List JsonValue :=
  (members.filter (·.1 == some name)).map (·.2)

/-- The only value if there is one; fails if there are more. -/
def atMostOne? : List JsonValue → Option (Option JsonValue)
  | [] => some none
  | [value] => some (some value)
  | _ => none

/-- The values of a record's parts, in the order of the names. An object gives each part under
its name, at most once, among others of any name; an array gives the parts in their order and may
end early. A part that is not given is none. -/
def parts? (names : List String) : JsonValue → Option (List (Option JsonValue))
  | .object members =>
    if members.all (·.1.isSome) then
      names.mapM fun name => atMostOne? (membersNamed name members)
    else none
  | .array items =>
    if items.length ≤ names.length then
      some (items.map some ++ List.replicate (names.length - items.length) none)
    else none
  | _ => none

/-- A part that has to be given. -/
def required? {Value : Type} (decode : JsonValue → Option Value) :
    Option JsonValue → Option Value
  | some value => decode value
  | none => none

/-- A part that stands for something when it is not given. -/
def given? {Value : Type} (otherwise : Value) (decode : JsonValue → Option Value) :
    Option JsonValue → Option Value
  | some value => decode value
  | none => some otherwise

end JsonValue

end OperatorDesk
