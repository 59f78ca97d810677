/-
This file measures how similar two words are, after Jaro. Two equal letters match if they stand
close enough to each other; the measure is the mean of the share of matching letters in either
word and the share of matching letters that are in order. It is kept as an exact fraction.
-/

namespace OperatorDesk.Text

/-- A fraction of natural numbers. -/
structure Share where
  numerator : Nat
  denominator : Nat
  deriving DecidableEq, Repr

namespace Share

/-- The first fraction is at least the second. -/
def atLeast (first second : Share) : Bool :=
  second.numerator * first.denominator ≤ first.numerator * second.denominator

end Share

/-- The greatest distance between matching letters. -/
def matchReach (left right : List Char) : Nat :=
  max left.length right.length / 2 - 1

/-- The first place of the letter among those that are free, from one place up to another. -/
def freePlace? (c : Char) (first last : Nat) (right : List Char) (taken : List Nat) :
    Option Nat :=
  (List.range right.length).find? fun place =>
    first ≤ place && place ≤ last && right[place]? == some c && !taken.contains place

/-- The matching letters of the left word from a place on, and the places that they take in the
right word. -/
def matchesFrom (right : List Char) (reach : Nat) :
    Nat → List Char → List Nat → List Char × List Nat
  | _, [], taken => ([], taken)
  | place, c :: rest, taken =>
    match freePlace? c (place - reach) (place + reach) right taken with
    | some found =>
      let (letters, taken) := matchesFrom right reach (place + 1) rest (found :: taken)
      (c :: letters, taken)
    | none => matchesFrom right reach (place + 1) rest taken

/-- The letters of a word at the given places, in the order of the word. -/
def lettersAt (word : List Char) (places : List Nat) : List Char :=
  ((List.range word.length).filter places.contains).filterMap (word[·]?)

/-- How similar two words are, between none and one. -/
def similarity (left right : List Char) : Share :=
  let (letters, places) := matchesFrom right (matchReach left right) 0 left []
  let count := letters.length
  let displaced := ((letters.zip (lettersAt right places)).filter fun (a, b) => a != b).length / 2
  if count = 0 then ⟨0, 1⟩
  else
    ⟨count * count * right.length + count * count * left.length +
      (count - displaced) * left.length * right.length,
      3 * left.length * right.length * count⟩

end OperatorDesk.Text
