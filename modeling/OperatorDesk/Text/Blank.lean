/-
This file fixes what counts as white space and as the same letter. White space is the Unicode
property White_Space, so a no-break space around an option does not make it another option.
Letter case is folded for ASCII letters only: `É` and `é` stay different.
-/

namespace OperatorDesk.Text

/-! ### White space -/

/-- The characters with the Unicode property White_Space. -/
def isBlank (c : Char) : Bool :=
  (9 ≤ c.toNat && c.toNat ≤ 13) || c.toNat == 0x20 || c.toNat == 0x85 || c.toNat == 0xA0 ||
    c.toNat == 0x1680 || (0x2000 ≤ c.toNat && c.toNat ≤ 0x200A) || c.toNat == 0x2028 ||
    c.toNat == 0x2029 || c.toNat == 0x202F || c.toNat == 0x205F || c.toNat == 0x3000

/-- The characters without blanks at either end. -/
def trimChars (chars : List Char) : List Char :=
  ((chars.dropWhile isBlank).reverse.dropWhile isBlank).reverse

/-- The text without blanks at either end. -/
def trim (text : String) : String :=
  String.ofList (trimChars text.toList)

/-- The text has nothing but blanks. -/
def isBlankText (text : String) : Bool :=
  text.toList.all isBlank

/-! ### Letter case -/

/-- The two texts differ at most in the case of ASCII letters. -/
def sameLetters (left right : String) : Bool :=
  left.toList.map Char.toLower == right.toList.map Char.toLower

/-- The two texts differ at most in outer blanks and in the case of ASCII letters. -/
def sameWords (left right : String) : Bool :=
  sameLetters (trim left) (trim right)

/-! ### Lines -/

/-- A line without the carriage return that ends it. -/
def dropReturn (line : List Char) : List Char :=
  match line.reverse with
  | '\r' :: rest => rest.reverse
  | _ => line

/-- The lines of a text after the reversed beginning of its first line. -/
def linesFrom (started : List Char) : List Char → List (List Char)
  | [] => if started.isEmpty then [] else [started.reverse]
  | '\n' :: rest => dropReturn started.reverse :: linesFrom [] rest
  | c :: rest => linesFrom (c :: started) rest

/-- The lines of a text. A line feed, alone or after a carriage return, ends a line; what stands
after the last line feed is a line of its own unless it is empty. -/
def linesOf (chars : List Char) : List (List Char) :=
  linesFrom [] chars

end OperatorDesk.Text
