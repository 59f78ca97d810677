/-
This file reads what a terminal reports from the characters that it sends. An escape character
begins a sequence; alone at the end it is the key itself, and before another character it says
that the alt key is held down. Sequences that are not understood are passed over.
-/

import OperatorDesk.Terminal.Input
import OperatorDesk.Text.Digits

namespace OperatorDesk.Terminal

/-- The character that begins a sequence. -/
def escape : Char := '\x1b'

/-- A key that goes down. -/
def pressed (code : KeyCode) (modifiers : List Modifier) : Report :=
  .key { code, modifiers, motion := .press }

/-- The letter some places behind another. -/
def letterFrom (first : Char) (places : Nat) : Char :=
  Char.ofNat (first.toNat + places)

/-- The key of a single character. Most controls are a letter or a digit with the control key. -/
def keyOfChar (c : Char) : KeyCode × List Modifier :=
  let code := c.toNat
  if c = '\r' then (.enter, [])
  else if c = '\t' then (.tab, [])
  else if code = 0x7F then (.backspace, [])
  else if code = 0 then (.char ' ', [.control])
  else if code ≤ 0x1A then (.char (letterFrom 'a' (code - 1)), [.control])
  else if 0x1C ≤ code ∧ code ≤ 0x1F then (.char (letterFrom '4' (code - 0x1C)), [.control])
  else (.char c, if c.isUpper then [.shift] else [])

/-- The key of the last letter of a sequence. -/
def keyOfLetter? (c : Char) : Option KeyCode :=
  match c with
  | 'A' => some .up
  | 'B' => some .down
  | 'C' => some .right
  | 'D' => some .left
  | 'H' => some .home
  | 'F' => some .finish
  | 'P' => some (.function 1)
  | 'Q' => some (.function 2)
  | 'R' => some (.function 3)
  | 'S' => some (.function 4)
  | _ => none

/-- The keys that are held down, as the bits of a number. -/
def modifiersOf (bits : Nat) : List Modifier :=
  ([(0, Modifier.shift), (1, .alt), (2, .control), (3, .superKey), (4, .hyperKey), (5, .metaKey)]
    |>.filter fun (place, _) => bits.testBit place).map (·.2)

/-- The number at the end of a text, one less. -/
def lastNumber (chars : List Char) : Nat :=
  Text.valueOfDigits (chars.reverse.takeWhile Char.isDigit).reverse - 1

/-- The character ends a sequence of numbers. -/
def endsNumbers (c : Char) : Bool :=
  64 ≤ c.toNat && c.toNat ≤ 126

/-- Goes past the first character with the property. -/
def dropPast (holds : Char → Bool) (chars : List Char) : List Char :=
  (chars.dropWhile (!holds ·)).drop 1

/-- Reads a sequence that begins with a number. -/
def readNumbered (chars : List Char) : Option Report × List Char :=
  let numbers := chars.takeWhile (!endsNumbers ·)
  match chars.drop numbers.length with
  | c :: rest =>
    ((keyOfLetter? c).map fun code => pressed code (modifiersOf (lastNumber numbers)), rest)
  | [] => (none, [])

/-- Reads a sequence behind an escape character and a bracket. -/
def readSequence : List Char → Option Report × List Char
  | [] => (none, [])
  | '[' :: rest => (none, rest.drop 1)
  | 'Z' :: rest => (some (pressed .backTab [.shift]), rest)
  | 'I' :: rest => (some .focusGained, rest)
  | 'O' :: rest => (some .focusLost, rest)
  | 'M' :: rest => (some .mouse, rest.drop 3)
  | '<' :: rest => (some .mouse, dropPast (fun c => c == 'M' || c == 'm') rest)
  | '?' :: rest => (none, dropPast (fun c => c == 'u' || c == 'c') rest)
  | c :: rest =>
    if c.isDigit then readNumbered (c :: rest)
    else ((keyOfLetter? c).map fun code => pressed code [], rest)

/-- Reads one report. -/
def readReport : List Char → Option Report × List Char
  | [] => (none, [])
  | c :: rest =>
    if c = escape then
      match rest with
      | [] => (some (pressed .esc []), [])
      | '[' :: after => readSequence after
      | ['O'] => (none, [])
      | 'O' :: letter :: after =>
        ((keyOfLetter? letter).map fun code => pressed code [], after)
      | next :: after =>
        if next = escape then (some (pressed .esc []), after)
        else
          let (code, modifiers) := keyOfChar next
          (some (pressed code (.alt :: modifiers)), after)
    else
      let (code, modifiers) := keyOfChar c
      (some (pressed code modifiers), rest)

/-- The reports that characters stand for. -/
def reportsFrom : Nat → List Char → List Report
  | 0, _ => []
  | _, [] => []
  | fuel + 1, chars =>
    let (report, rest) := readReport chars
    report.toList ++ reportsFrom fuel rest

/-- The reports that a text stands for. Every report takes a character. -/
def reportsOf (typed : String) : List Report :=
  reportsFrom typed.toList.length typed.toList

/-- What the shell hears of a text. -/
def eventsOf (typed : String) : List Event :=
  (reportsOf typed).filterMap Report.event?

end OperatorDesk.Terminal
