/-
This file reads the numbers of the settings from YAML scalars. A number is plain, or literal with
the tag of whole numbers. It may begin with a plus sign, and is decimal without leading zeros, or
has one of the beginnings `0x`, `0o` and `0b`.
-/

import OperatorDesk.Yaml.Document
import OperatorDesk.Text.Digits

namespace OperatorDesk.Settings.Yaml

open OperatorDesk.Yaml

/-- The tag of whole numbers. -/
def wholeTag : List Char := "tag:yaml.org,2002:int".toList

/-- The tag of nothing. -/
def nullTag : List Char := "tag:yaml.org,2002:null".toList

/-- The words for nothing. -/
def isNullWord (text : List Char) : Bool :=
  ["null".toList, "Null".toList, "NULL".toList, "~".toList].contains text

/-- The number with one plus sign at the front taken off. -/
def withoutPlus : List Char → List Char
  | '+' :: rest => rest
  | chars => chars

/-- The base that the beginning of a number announces, and what comes after. -/
def announcedBase? : List Char → Option (Nat × List Char)
  | '0' :: 'x' :: rest => some (16, rest)
  | '0' :: 'o' :: rest => some (8, rest)
  | '0' :: 'b' :: rest => some (2, rest)
  | _ => none

/-- The number has more digits than one and begins with zero. -/
def hasLeadingZero : List Char → Bool
  | '0' :: _ :: _ => true
  | _ => false

/-- The number that a text stands for. -/
def numberOfText? (text : List Char) : Option Nat :=
  let digits := withoutPlus text
  match announcedBase? digits with
  | some (base, rest) => Text.valueIn? base rest
  | none => if hasLeadingZero digits then none else Text.valueIn? 10 digits

/-- The text of a scalar that can be a number. -/
def numeral? (document : Document) (node : Node Nat) : Option (List Char) :=
  match document.resolved node with
  | .scalar _ tag style text =>
    if style = .plain ∨ (style = .literal ∧ tag = some wholeTag) then some text else none
  | _ => none

/-- The number that a node stands for, up to a limit. -/
def number? (document : Document) (limit : Nat) (node : Node Nat) : Option Nat :=
  ((numeral? document node).bind numberOfText?).filter (· ≤ limit)

/-- What a node says about a value that may be nothing: nothing, or what the node holds. A plain
scalar is nothing if it is empty or a word for it, unless it has a tag; with the tag of nothing it
has to be a word for it. -/
def orNothing? {Value : Type} (document : Document) (decode : Node Nat → Option Value)
    (node : Node Nat) : Option (Option Value) :=
  match document.resolved node with
  | .scalar label tag style text =>
    let held := (decode (.scalar label tag style text)).map some
    if style != .plain then held
    else
      match tag with
      | some tag => if tag = nullTag then if isNullWord text then some none else none else held
      | none => if text.isEmpty || isNullWord text then some none else held
  | node => (decode node).map some

end OperatorDesk.Settings.Yaml
