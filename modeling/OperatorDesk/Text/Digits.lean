/-
This file reads and writes natural numbers by their digits. Decimal numbers are written with leading
zeros up to a width; reading takes the digits at the front of a text, at most a given number of
them. In bases up to sixteen, letters of either case stand for the digits from ten on.
-/

namespace OperatorDesk.Text

/-! ### Decimal numbers -/

/-- The value of a decimal digit. -/
def digitValue (c : Char) : Nat :=
  c.toNat - '0'.toNat

/-- The number that a list of decimal digits stands for. -/
def valueOfDigits (digits : List Char) : Nat :=
  digits.foldl (fun value c => 10 * value + digitValue c) 0

/-- The digits at the front of a text, at most `limit` of them. -/
def leadingDigits : Nat → List Char → List Char
  | 0, _ => []
  | _, [] => []
  | limit + 1, c :: rest => if c.isDigit then c :: leadingDigits limit rest else []

/-- Reads the number at the front of a text from at least one and at most `limit` digits. -/
def readNumber? (limit : Nat) (chars : List Char) : Option (Nat × List Char) :=
  match leadingDigits limit chars with
  | [] => none
  | digits => some (valueOfDigits digits, chars.drop digits.length)

/-- The number in decimal, with leading zeros up to a width. -/
def padded (width number : Nat) : String :=
  let digits := Nat.toDigits 10 number
  String.ofList (List.replicate (width - digits.length) '0' ++ digits)

/-! ### Other bases -/

/-- The value of a hexadecimal digit. -/
def hexValue? (c : Char) : Option Nat :=
  if c.isDigit then some (c.toNat - '0'.toNat)
  else if 'a' ≤ c ∧ c ≤ 'f' then some (c.toNat - 'a'.toNat + 10)
  else if 'A' ≤ c ∧ c ≤ 'F' then some (c.toNat - 'A'.toNat + 10)
  else none

/-- The value of a digit of the base. -/
def digitValueIn? (base : Nat) (c : Char) : Option Nat :=
  (hexValue? c).filter (· < base)

/-- The number that the digits stand for after those of a number read before them. -/
def continueIn? (base : Nat) : Nat → List Char → Option Nat
  | value, [] => some value
  | value, c :: rest => (digitValueIn? base c).bind fun digit =>
    continueIn? base (base * value + digit) rest

/-- The number that one digit or more of the base stand for. -/
def valueIn? (base : Nat) (digits : List Char) : Option Nat :=
  if digits.isEmpty then none else continueIn? base 0 digits

end OperatorDesk.Text
