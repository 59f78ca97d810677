/-
This file reads moments written after RFC 3339, with some freedom: blanks may stand before a
number, before a mark between numbers, and around the zone; numbers may be short; the date may
be followed by a `T` or a space; a year with a sign may have any number of digits; the zone may
be `Z`, `UTC`, or a distance in hours and minutes with colons or blanks between them, and its
minus may be the mathematical sign. A moment is moved to universal time when it is read.
-/

import OperatorDesk.Moment
import OperatorDesk.Text.Blank
import OperatorDesk.Text.Digits

namespace OperatorDesk.Moment

open Text

/-- A number of at most two digits after blanks. -/
def readPair (chars : List Char) : Option (Nat × List Char) :=
  readNumber? 2 (chars.dropWhile isBlank)

/-- A mark after blanks. -/
def readMark (mark : Char) (chars : List Char) : Option (List Char) :=
  match chars.dropWhile isBlank with
  | c :: rest => if c = mark then some rest else none
  | [] => none

/-- A year after blanks: up to four digits, or a sign and any number of digits. -/
def readYear (chars : List Char) : Option (Int × List Char) :=
  match chars.dropWhile isBlank with
  | '-' :: rest => (readNumber? rest.length rest).map fun (year, left) => (-(year : Int), left)
  | '+' :: rest => (readNumber? rest.length rest).map fun (year, left) => ((year : Int), left)
  | start => (readNumber? 4 start).map fun (year, left) => ((year : Int), left)

/-- A date. -/
def readDate (chars : List Char) : Option (Date × List Char) := do
  let (year, chars) ← readYear chars
  let chars ← readMark '-' chars
  let (month, chars) ← readPair chars
  let chars ← readMark '-' chars
  let (day, chars) ← readPair chars
  let date ← Date.ofNumbers? year month day
  return (date, chars)

/-- The letter or space between date and time. -/
def readSeparator : List Char → Option (List Char)
  | 't' :: rest => some rest
  | 'T' :: rest => some rest
  | ' ' :: rest => some rest
  | _ => none

/-- The fraction of a second in nanoseconds. Digits after the ninth are passed over. -/
def readFraction : List Char → Option (Nat × List Char)
  | '.' :: rest =>
    match leadingDigits 9 rest with
    | [] => none
    | digits =>
      some (valueOfDigits (digits ++ List.replicate (9 - digits.length) '0'),
        (rest.drop digits.length).dropWhile Char.isDigit)
  | chars => some (0, chars)

/-- The second of the day and the nanoseconds. The sixtieth second of any minute is a leap
second. -/
def readTime (chars : List Char) : Option ((Nat × Nat) × List Char) := do
  let (hour, chars) ← readPair chars
  let chars ← readMark ':' chars
  let (minute, chars) ← readPair chars
  let chars ← readMark ':' chars
  let (second, chars) ← readPair chars
  let (nanos, chars) ← readFraction chars
  if 23 < hour ∨ 59 < minute ∨ 60 < second then none
  else if second = 60 then
    return ((hour * 3600 + minute * 60 + 59, nanosPerSecond + nanos), chars)
  else return ((hour * 3600 + minute * 60 + second, nanos), chars)

/-- Two digits exactly. -/
def readTwoDigits : List Char → Option (Nat × List Char)
  | a :: b :: rest =>
    if a.isDigit && b.isDigit then some (10 * digitValue a + digitValue b, rest) else none
  | _ => none

/-- Hours and minutes of a zone, in seconds. -/
def readDistance (chars : List Char) : Option (Nat × List Char) := do
  let (hours, chars) ← readTwoDigits chars
  let (minutes, chars) ← readTwoDigits (chars.dropWhile fun c => c == ':' || isBlank c)
  if 59 < minutes ∨ 86400 ≤ hours * 3600 + minutes * 60 then none
  else return (hours * 3600 + minutes * 60, chars)

/-- The distance of a zone from universal time, in seconds to the east. -/
def readZone : List Char → Option (Int × List Char)
  | 'Z' :: rest => some (0, rest)
  | 'z' :: rest => some (0, rest)
  | '+' :: rest => (readDistance rest).map fun (seconds, left) => ((seconds : Int), left)
  | '-' :: rest => (readDistance rest).map fun (seconds, left) => (-(seconds : Int), left)
  | '−' :: rest => (readDistance rest).map fun (seconds, left) => (-(seconds : Int), left)
  | a :: b :: c :: rest =>
    if [a, b, c].map Char.toLower = ['u', 't', 'c'] then some (0, rest) else none
  | _ => none

/-- Moves a local time to universal time, to the day before or after if need be. -/
def shifted? (date : Date) (secondOfDay nanos : Nat) (east : Int) : Option Moment :=
  let second := (secondOfDay : Int) - east
  if second < 0 then
    date.previous?.map fun date => { date, secondOfDay := (second + 86400).toNat, nanos }
  else if second < 86400 then some { date, secondOfDay := second.toNat, nanos }
  else date.next?.map fun date => { date, secondOfDay := (second - 86400).toNat, nanos }

/-- The moment that a text stands for. -/
def ofChars? (chars : List Char) : Option Moment := do
  let (date, chars) ← readDate chars
  let chars ← readSeparator chars
  let ((secondOfDay, nanos), chars) ← readTime chars
  let (east, chars) ← readZone (chars.dropWhile isBlank)
  if chars.all isBlank then shifted? date secondOfDay nanos east else none

/-- The moment that a text stands for. -/
def ofText? (text : String) : Option Moment :=
  ofChars? text.toList

end OperatorDesk.Moment
