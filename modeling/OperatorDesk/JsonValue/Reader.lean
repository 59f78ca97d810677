/-
This file reads JSON. A string is first read into its pieces, then the code units of its `\u`
escapes are joined to characters; two halves of a surrogate pair make one character only where
both are escapes and the higher half comes first. The main function is `ofText?`, which fails on
every text that is not one JSON value between blanks.
-/

import OperatorDesk.JsonValue
import OperatorDesk.Text.Digits

namespace OperatorDesk.JsonValue

/-! ### Blanks -/

/-- The characters that may stand between the marks of a JSON text. -/
def isGap (c : Char) : Bool :=
  c == ' ' || c == '\t' || c == '\n' || c == '\r'

/-- The text from its first character that is no gap. -/
def skipGap (chars : List Char) : List Char :=
  chars.dropWhile isGap

/-- Reads a mark after a gap. -/
def readMark (mark : Char) (chars : List Char) : Option (List Char) :=
  match skipGap chars with
  | c :: rest => if c = mark then some rest else none
  | [] => none

/-! ### Strings -/

/-- What a string is written with. -/
inductive Piece where
  /-- A character, as it stands or after a backslash. -/
  | char (c : Char)
  /-- The code unit of a `\u` escape. -/
  | unit (code : Nat)
  deriving DecidableEq, Repr

/-- The code unit that four hexadecimal digits stand for. -/
def unitOf? (a b c d : Char) : Option Nat :=
  Text.valueIn? 16 [a, b, c, d]

/-- The character that a letter after a backslash stands for. -/
def escapeOf? (c : Char) : Option Char :=
  match c with
  | '"' => some '"'
  | '\\' => some '\\'
  | '/' => some '/'
  | 'b' => some '\x08'
  | 'f' => some '\x0c'
  | 'n' => some '\n'
  | 'r' => some '\r'
  | 't' => some '\t'
  | _ => none

/-- Reads the pieces of a string up to the closing quote. Controls have to be escaped. -/
def readPieces : List Char → Option (List Piece × List Char)
  | [] => none
  | '"' :: rest => some ([], rest)
  | '\\' :: 'u' :: a :: b :: c :: d :: rest => do
    let code ← unitOf? a b c d
    let (pieces, left) ← readPieces rest
    return (.unit code :: pieces, left)
  | '\\' :: c :: rest => do
    let char ← escapeOf? c
    let (pieces, left) ← readPieces rest
    return (.char char :: pieces, left)
  | c :: rest =>
    if c = '\\' ∨ c.toNat < 0x20 then none
    else do
      let (pieces, left) ← readPieces rest
      return (.char c :: pieces, left)

/-- The code unit is the first half of a pair. -/
def isHighHalf (code : Nat) : Bool := 0xD800 ≤ code && code ≤ 0xDBFF

/-- The code unit is the second half of a pair. -/
def isLowHalf (code : Nat) : Bool := 0xDC00 ≤ code && code ≤ 0xDFFF

/-- The characters that the pieces make up. -/
def joinPieces : List Piece → Option (List Char)
  | [] => some []
  | .char c :: rest => (joinPieces rest).map (c :: ·)
  | .unit high :: .unit low :: rest =>
    if isHighHalf high then
      if isLowHalf low then
        (joinPieces rest).map
          (Char.ofNat (0x10000 + (high - 0xD800) * 0x400 + (low - 0xDC00)) :: ·)
      else none
    else if isLowHalf high then none
    else (joinPieces (.unit low :: rest)).map (Char.ofNat high :: ·)
  | .unit code :: rest =>
    if isHighHalf code || isLowHalf code then none
    else (joinPieces rest).map (Char.ofNat code :: ·)

/-- Reads the content of a string after the opening quote. -/
def readContent (chars : List Char) : Option (Option String × List Char) := do
  let (pieces, rest) ← readPieces chars
  return ((joinPieces pieces).map String.ofList, rest)

/-! ### Numbers -/

/-- Reads one digit or more. -/
def readDigits (chars : List Char) : Option (List Char × List Char) :=
  match chars.span Char.isDigit with
  | ([], _) => none
  | (digits, rest) => some (digits, rest)

/-- Reads the digits before the point: no zero stands before another digit. -/
def readWhole (chars : List Char) : Option (List Char × List Char) :=
  match readDigits chars with
  | some ('0' :: _ :: _, _) => none
  | result => result

/-- Reads a point and the digits behind it, if there is a point. -/
def readFraction : List Char → Option (List Char × List Char)
  | '.' :: rest => (readDigits rest).map fun (digits, left) => ('.' :: digits, left)
  | chars => some ([], chars)

/-- Reads the sign of an exponent, if there is one. -/
def readSign : List Char → List Char × List Char
  | '+' :: rest => (['+'], rest)
  | '-' :: rest => (['-'], rest)
  | chars => ([], chars)

/-- Reads an exponent, if there is one. -/
def readExponent : List Char → Option (List Char × List Char)
  | [] => some ([], [])
  | c :: rest =>
    if c = 'e' ∨ c = 'E' then
      let (sign, after) := readSign rest
      (readDigits after).map fun (digits, left) => (c :: sign ++ digits, left)
    else some ([], c :: rest)

/-- Reads a number without a sign. -/
def readMagnitude (chars : List Char) : Option (List Char × List Char) := do
  let (whole, chars) ← readWhole chars
  let (fraction, chars) ← readFraction chars
  let (exponent, chars) ← readExponent chars
  return (whole ++ fraction ++ exponent, chars)

/-- Reads a number. -/
def readNumber : List Char → Option (List Char × List Char)
  | '-' :: rest => (readMagnitude rest).map fun (literal, left) => ('-' :: literal, left)
  | chars => readMagnitude chars

/-! ### Values -/

mutual

/-- Reads a value after a gap. -/
def readValue : Nat → List Char → Option (JsonValue × List Char)
  | 0, _ => none
  | fuel + 1, chars =>
    match skipGap chars with
    | 'n' :: 'u' :: 'l' :: 'l' :: rest => some (.null, rest)
    | 't' :: 'r' :: 'u' :: 'e' :: rest => some (.bool true, rest)
    | 'f' :: 'a' :: 'l' :: 's' :: 'e' :: rest => some (.bool false, rest)
    | '"' :: rest => (readContent rest).map fun (content, left) => (.string content, left)
    | '[' :: rest =>
      match readMark ']' rest with
      | some left => some (.array [], left)
      | none => (readItems fuel rest).map fun (items, left) => (.array items, left)
    | '{' :: rest =>
      match readMark '}' rest with
      | some left => some (.object [], left)
      | none => (readMembers fuel rest).map fun (members, left) => (.object members, left)
    | start => (readNumber start).map fun (literal, left) => (.number literal, left)

/-- Reads one item or more, with commas between them, and the closing bracket. -/
def readItems : Nat → List Char → Option (List JsonValue × List Char)
  | 0, _ => none
  | fuel + 1, chars => do
    let (item, chars) ← readValue fuel chars
    match readMark ']' chars with
    | some left => return ([item], left)
    | none =>
      let chars ← readMark ',' chars
      let (items, left) ← readItems fuel chars
      return (item :: items, left)

/-- Reads one member or more, with commas between them, and the closing brace. -/
def readMembers : Nat → List Char → Option (List (Option String × JsonValue) × List Char)
  | 0, _ => none
  | fuel + 1, chars => do
    let chars ← readMark '"' chars
    let (name, chars) ← readContent chars
    let chars ← readMark ':' chars
    let (value, chars) ← readValue fuel chars
    match readMark '}' chars with
    | some left => return ([(name, value)], left)
    | none =>
      let chars ← readMark ',' chars
      let (members, left) ← readMembers fuel chars
      return ((name, value) :: members, left)

end

/-- Reads the value that a text stands for. Two steps for each character are enough, since a list
takes a step of its own beside its first item. -/
def ofChars? (chars : List Char) : Option JsonValue :=
  match readValue (2 * chars.length + 2) chars with
  | some (value, rest) => if (skipGap rest).isEmpty then some value else none
  | none => none

/-- The value that a text stands for. -/
def ofText? (text : String) : Option JsonValue :=
  ofChars? text.toList

/-- Reads a text and decodes the value. -/
def decodeText? {Value : Type} (decode : JsonValue → Option Value) (text : String) :
    Option Value :=
  (ofText? text).bind decode

end OperatorDesk.JsonValue
