/-
This file reads anchors, aliases and tags, and the directives before a document. Tags are written
in characters of addresses; their percent escapes stand for octets, which are kept as characters
of the same number.
-/

import OperatorDesk.Yaml.Token
import OperatorDesk.Text.Digits

namespace OperatorDesk.Yaml

/-! ### Anchors -/

/-- The character may stand right behind the name of an anchor. -/
def endsName (chars : List Char) : Bool :=
  endsWord chars ||
    (chars.head?.map (['?', ':', ',', ']', '\x7d', '%', '@', Char.ofNat 0x60].contains ·)).getD
      false

/-- Reads the name of an anchor behind its mark. -/
def readName? (cursor : Cursor) : Option (List Char × Cursor) :=
  let name := cursor.peek isNameChar
  let cursor := cursor.advance name.length
  if name.isEmpty || !endsName cursor.rest then none else some (name, cursor)

/-! ### Tags -/

/-- The characters of a tag; some more are allowed between angle brackets. -/
def isTagChar (verbatim : Bool) (c : Char) : Bool :=
  isNameChar c ||
    [';', '/', '?', ':', '@', '&', '=', '+', '$', '.', '%', '!', '~', '*', '\'', '(', ')'].contains
      c || (verbatim && [',', '[', ']'].contains c)

/-- The number of octets of a character that begins with this octet. -/
def octetCount? (octet : Nat) : Option Nat :=
  if octet < 0x80 then some 1
  else if 0xC0 ≤ octet ∧ octet < 0xE0 then some 2
  else if 0xE0 ≤ octet ∧ octet < 0xF0 then some 3
  else if 0xF0 ≤ octet ∧ octet < 0xF8 then some 4
  else none

/-- Reads an octet as a percent sign and two hexadecimal digits. -/
def readOctet? : List Char → Option (Nat × List Char)
  | '%' :: a :: b :: rest => (Text.valueIn? 16 [a, b]).map fun octet => (octet, rest)
  | _ => none

/-- Reads further octets of a character. -/
def readOctets? : Nat → List Char → Option (List Char × List Char)
  | 0, chars => some ([], chars)
  | count + 1, chars => do
    let (octet, rest) ← readOctet? chars
    if octet < 0x80 ∨ 0xC0 ≤ octet then none
    else
      let (octets, left) ← readOctets? count rest
      return (Char.ofNat octet :: octets, left)

/-- Reads the octets of a character. -/
def readEscapes? (chars : List Char) : Option (List Char × List Char) := do
  let (octet, rest) ← readOctet? chars
  let count ← octetCount? octet
  let (octets, left) ← readOctets? (count - 1) rest
  return (Char.ofNat octet :: octets, left)

/-- Reads the characters of a tag. -/
def readTagChars? (verbatim : Bool) : Nat → List Char → Option (List Char × List Char)
  | 0, chars => some ([], chars)
  | fuel + 1, chars =>
    match chars with
    | [] => some ([], [])
    | c :: rest =>
      if !isTagChar verbatim c then some ([], chars)
      else if c = '%' then do
        let (octets, rest) ← readEscapes? chars
        let (more, left) ← readTagChars? verbatim fuel rest
        return (octets ++ more, left)
      else do
        let (more, left) ← readTagChars? verbatim fuel rest
        return (c :: more, left)

/-- Reads the characters of a tag, which may be none. -/
def readTagText? (verbatim : Bool) (cursor : Cursor) : Option (List Char × Cursor) := do
  let (text, left) ← readTagChars? verbatim cursor.rest.length cursor.rest
  return (text, cursor.advance (cursor.rest.length - left.length))

/-- Reads one character of a tag or more. -/
def readSomeTagText? (verbatim : Bool) (cursor : Cursor) : Option (List Char × Cursor) := do
  let (text, next) ← readTagText? verbatim cursor
  if text.isEmpty then none else return (text, next)

/-- Reads an exclamation mark, a name, and a second exclamation mark if there is one. -/
def readHandle? (cursor : Cursor) : Option (List Char × Cursor) :=
  if cursor.sees '!' then
    let name := (cursor.advance 1).peek isNameChar
    let next := cursor.advance (1 + name.length)
    if next.sees '!' then some ('!' :: name ++ ['!'], next.advance 1)
    else some ('!' :: name, next)
  else none

/-- The handle has both of its marks. -/
def isClosedHandle (handle : List Char) : Bool :=
  2 ≤ handle.length && handle.getLast? == some '!'

/-- Reads a tag between angle brackets. -/
def readVerbatimTag? (cursor : Cursor) : Option (Token × Cursor) := do
  let (text, next) ← readSomeTagText? true (cursor.advance 2)
  if next.sees '>' then return (.tag [] text, next.advance 1) else none

/-- Reads a tag with a handle. A name behind a single mark belongs to the rest of the tag; the
mark alone is a tag of its own. -/
def readShortTag? (cursor : Cursor) : Option (Token × Cursor) := do
  let (handle, next) ← readHandle? cursor
  if isClosedHandle handle then
    let (rest, next) ← readSomeTagText? false next
    return (.tag handle rest, next)
  else
    let (rest, next) ← readTagText? false next
    match handle.drop 1 ++ rest with
    | [] => return (.tag [] ['!'], next)
    | rest => return (.tag ['!'] rest, next)

/-- Reads a tag. -/
def readTag? (inFlow : Bool) (cursor : Cursor) : Option (Token × Cursor) := do
  let (token, next) ←
    if (cursor.advance 1).sees '<' then readVerbatimTag? cursor else readShortTag? cursor
  if endsWord next.rest || (inFlow && next.sees ',') then return (token, next) else none

/-! ### Directives -/

/-- Reads a number of at most nine digits. -/
def readVersionNumber? (cursor : Cursor) : Option (Nat × Cursor) :=
  let digits := cursor.peek Char.isDigit
  if digits.isEmpty || 9 < digits.length then none
  else some (Text.valueOfDigits digits, cursor.advance digits.length)

/-- Reads the value of a version directive. -/
def readVersion? (cursor : Cursor) : Option (Token × Cursor) := do
  let (major, cursor) ← readVersionNumber? (cursor.skip isSpace)
  if cursor.sees '.' then
    let (minor, cursor) ← readVersionNumber? (cursor.advance 1)
    return (.version major minor, cursor)
  else none

/-- Reads the value of a tag directive. -/
def readHandleValue? (cursor : Cursor) : Option (Token × Cursor) := do
  let (handle, cursor) ← readHandle? (cursor.skip isSpace)
  if !isClosedHandle handle && handle != ['!'] then none
  else if !(cursor.rest.head?.map isSpace).getD false then none
  else
    let (start, cursor) ← readSomeTagText? true (cursor.skip isSpace)
    if endsWord cursor.rest then return (.handle handle start, cursor) else none

/-- Reads a directive from its percent sign to the end of its line. -/
def readDirective? (cursor : Cursor) : Option (Token × Cursor) := do
  let name := (cursor.advance 1).peek isNameChar
  let cursor := cursor.advance (1 + name.length)
  if !endsWord cursor.rest then none
  else
    let (token, cursor) ←
      if name = ['Y', 'A', 'M', 'L'] then readVersion? cursor
      else if name = ['T', 'A', 'G'] then readHandleValue? cursor
      else none
    return (token, ← cursor.skipLineEnd?)

end OperatorDesk.Yaml
