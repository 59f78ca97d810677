/-
This file defines a question that an agent puts to the operator: who asks, what is asked, which
options stand to choose from, and whether a free text or a broadcast is welcome. Ids for questions
can be made up: such an id is a mark and 32 hexadecimal digits. All but six of their 128 bits are
random; the six say that the number was made so.
-/

import OperatorDesk.Text.Blank

namespace OperatorDesk

/-- What an agent wants to have decided. -/
structure Question where
  /-- Echoed by the answer. -/
  id : String
  agent : String
  mission : String
  /-- Task, step or file the question belongs to. -/
  context : Option String
  text : String
  /-- In display order. -/
  options : List String
  allowsFreeText : Bool
  allowsBroadcast : Bool
  deriving DecidableEq, Repr

namespace Question

/-- A question with an id and a text, and nothing else said. -/
def plain (id text : String) : Question :=
  { id, agent := "", mission := "", context := none, text, options := [],
    allowsFreeText := false, allowsBroadcast := false }

/-- The first declared option that the candidate names, up to outer blanks and ASCII case. -/
def findOption? (question : Question) (candidate : String) : Option String :=
  question.options.find? (Text.sameWords · candidate)

/-! ### Made-up ids -/

/-- The mark at the front of an id that was made up. -/
def idMark : String := "Q-"

/-- The number with its four version bits and its two variant bits set. -/
def withVersion (random : Nat) : Nat :=
  let high := (random >>> 80) % 0x1000000000000
  let middle := (random >>> 64) % 0x1000
  let low := random % 0x4000000000000000
  (high <<< 80) + ((0x4000 + middle) <<< 64) + (0x8000000000000000 + low)

/-- The number in hexadecimal, with this many digits. -/
def hexadecimal : Nat → Nat → List Char
  | 0, _ => []
  | width + 1, number => hexadecimal width (number / 16) ++ [Nat.digitChar (number % 16)]

/-- The id made from a random number. -/
def generatedId (random : Nat) : String :=
  idMark ++ String.ofList (hexadecimal 32 (withVersion random))

end Question

end OperatorDesk
