/-
This file splits a text into the characters that a reader perceives: a letter with its accents, a
syllable, a flag, an emoji made of several. The boundaries are those of Unicode's extended
grapheme clusters. Each cluster takes a number of cells on a terminal, which `cellCount` gives.
-/

import OperatorDesk.Text.Blank
import OperatorDesk.Text.Property

namespace OperatorDesk.Text

/-- How a character behaves at a boundary. -/
inductive BreakClass where
  | carriageReturn
  | lineFeed
  | control
  | extending
  | joiner
  | regional
  | preceding
  | spacing
  | leadingJamo
  | vowelJamo
  | trailingJamo
  | openSyllable
  | closedSyllable
  | other
  deriving DecidableEq, Repr

namespace BreakClass

/-- Controls and formats, which stand alone. -/
def controls : Ranges := [
  (0x0, 0x9), (0xB, 0xC), (0xE, 0x1F), (0x7F, 0x9F), (0xAD, 0xAD), (0x61C, 0x61C),
  (0x180E, 0x180E), (0x200B, 0x200B), (0x200E, 0x200F), (0x2028, 0x202E), (0x2060, 0x206F),
  (0xFEFF, 0xFEFF), (0xFFF0, 0xFFFB), (0x13430, 0x1343F), (0x1BCA0, 0x1BCA3),
  (0x1D173, 0x1D17A), (0xE0000, 0xE001F), (0xE0080, 0xE00FF), (0xE01F0, 0xE0FFF) ]

/-- Characters that belong to the character after them. -/
def precedings : Ranges := [
  (0x600, 0x605), (0x6DD, 0x6DD), (0x70F, 0x70F), (0x890, 0x891), (0x8E2, 0x8E2),
  (0xD4E, 0xD4E), (0x110BD, 0x110BD), (0x110CD, 0x110CD), (0x111C2, 0x111C3),
  (0x1193F, 0x1193F), (0x11941, 0x11941), (0x11A3A, 0x11A3A), (0x11A84, 0x11A89),
  (0x11D46, 0x11D46), (0x11F02, 0x11F02) ]

/-- The class of a character. -/
def of (c : Char) : BreakClass :=
  if c = '\r' then .carriageReturn
  else if c = '\n' then .lineFeed
  else if 0x20 ≤ c.toNat ∧ c.toNat < 0x7F then .other
  else if c.toNat = 0x200D then .joiner
  else if controls.holds c then .control
  else if Property.extending.holds c then .extending
  else if Property.spacing.holds c then .spacing
  else if precedings.holds c then .preceding
  else if 0x1F1E6 ≤ c.toNat ∧ c.toNat ≤ 0x1F1FF then .regional
  else if (0x1100 ≤ c.toNat ∧ c.toNat ≤ 0x115F) ∨ (0xA960 ≤ c.toNat ∧ c.toNat ≤ 0xA97C) then
    .leadingJamo
  else if (0x1160 ≤ c.toNat ∧ c.toNat ≤ 0x11A7) ∨ (0xD7B0 ≤ c.toNat ∧ c.toNat ≤ 0xD7C6) then
    .vowelJamo
  else if (0x11A8 ≤ c.toNat ∧ c.toNat ≤ 0x11FF) ∨ (0xD7CB ≤ c.toNat ∧ c.toNat ≤ 0xD7FB) then
    .trailingJamo
  else if 0xAC00 ≤ c.toNat ∧ c.toNat ≤ 0xD7A3 then
    if (c.toNat - 0xAC00) % 28 = 0 then .openSyllable else .closedSyllable
  else .other

/-- The character stands apart from both neighbours. -/
def standsApart : BreakClass → Bool
  | .carriageReturn => true
  | .lineFeed => true
  | .control => true
  | _ => false

/-- A syllable goes on from one part to the next. -/
def joinsSyllable : BreakClass → BreakClass → Bool
  | .leadingJamo, .leadingJamo => true
  | .leadingJamo, .vowelJamo => true
  | .leadingJamo, .openSyllable => true
  | .leadingJamo, .closedSyllable => true
  | .openSyllable, .vowelJamo => true
  | .openSyllable, .trailingJamo => true
  | .vowelJamo, .vowelJamo => true
  | .vowelJamo, .trailingJamo => true
  | .closedSyllable, .trailingJamo => true
  | .trailingJamo, .trailingJamo => true
  | _, _ => false

end BreakClass

/-! ### Conjuncts of Indic scripts -/

/-- The consonants that a virama joins. -/
def conjunctConsonants : Ranges := [
  (0x915, 0x939), (0x958, 0x95F), (0x978, 0x97F), (0x995, 0x9A8), (0x9AA, 0x9B0),
  (0x9B2, 0x9B2), (0x9B6, 0x9B9), (0x9DC, 0x9DD), (0x9DF, 0x9DF), (0x9F0, 0x9F1),
  (0xA95, 0xAA8), (0xAAA, 0xAB0), (0xAB2, 0xAB3), (0xAB5, 0xAB9), (0xAF9, 0xAF9),
  (0xB15, 0xB28), (0xB2A, 0xB30), (0xB32, 0xB33), (0xB35, 0xB39), (0xB5C, 0xB5D),
  (0xB5F, 0xB5F), (0xB71, 0xB71), (0xC15, 0xC28), (0xC2A, 0xC39), (0xC58, 0xC5A),
  (0xD15, 0xD3A) ]

/-- The viramas that join consonants. -/
def conjunctLinkers : Ranges := [
  (0x94D, 0x94D), (0x9CD, 0x9CD), (0xACD, 0xACD), (0xB4D, 0xB4D), (0xC4D, 0xC4D),
  (0xD4D, 0xD4D) ]

/-- How far something that goes on over several characters has come. -/
inductive Joint where
  | none
  /-- It has begun. -/
  | begun
  /-- It goes on if the next character is of the right kind. -/
  | joined
  deriving DecidableEq, Repr

/-- What has to be remembered of the characters before a boundary. -/
structure BoundaryState where
  previous : BreakClass
  /-- A pictograph, and after it a joiner. -/
  picture : Joint
  /-- A consonant, and after it a virama. -/
  conjunct : Joint
  /-- An odd number of regional letters. -/
  halfFlag : Bool
  deriving DecidableEq, Repr

namespace BoundaryState

/-- The state after a first character. -/
def start (c : Char) : BoundaryState :=
  { previous := .of c
    picture := if Property.pictographic.holds c then .begun else .none
    conjunct := if conjunctConsonants.holds c then .begun else .none
    halfFlag := BreakClass.of c = .regional }

/-- The character belongs to the same cluster as the one before it. -/
def joins (state : BoundaryState) (c : Char) : Bool :=
  match state.previous, BreakClass.of c with
  | .carriageReturn, .lineFeed => true
  | previous, current =>
    if previous.standsApart || current.standsApart then false
    else if previous.joinsSyllable current then true
    else if current = .extending || current = .joiner || current = .spacing then true
    else if previous = .preceding then true
    else if state.conjunct = .joined && conjunctConsonants.holds c then true
    else if state.picture = .joined && Property.pictographic.holds c then true
    else current = .regional && state.halfFlag

/-- The state after one more character. -/
def next (state : BoundaryState) (c : Char) : BoundaryState :=
  let current := BreakClass.of c
  { previous := current
    picture :=
      if Property.pictographic.holds c then .begun
      else if state.picture = .begun && current = .extending then .begun
      else if state.picture = .begun && current = .joiner then .joined
      else .none
    conjunct :=
      if conjunctConsonants.holds c then .begun
      else if state.conjunct = .none then .none
      else if conjunctLinkers.holds c then .joined
      else if current = .extending || current = .joiner then state.conjunct
      else .none
    halfFlag := current = .regional && !state.halfFlag }

end BoundaryState

/-- The clusters of a text after the reversed beginning of its first cluster. -/
def clustersFrom (state : BoundaryState) (started : List Char) : List Char → List (List Char)
  | [] => [started.reverse]
  | c :: rest =>
    if state.joins c then clustersFrom (state.next c) (c :: started) rest
    else started.reverse :: clustersFrom (state.next c) [c] rest

/-- The clusters of a text. -/
def clusters : List Char → List (List Char)
  | [] => []
  | c :: rest => clustersFrom (.start c) [c] rest

/-! ### Cells -/

/-- The cells of a character that stands alone. Controls take one. -/
def cellCountOfChar (c : Char) : Nat :=
  if c.toNat < 0x300 then 1
  else if Property.wide.holds c then 2
  else if Property.extending.holds c && !(0x1F3FB ≤ c.toNat && c.toNat ≤ 0x1F3FF) then 0
  else if Property.invisible.holds c then 0
  else if BreakClass.of c = .vowelJamo || BreakClass.of c = .trailingJamo then 0
  else 1

/-- The cluster is drawn as one emoji. -/
def isEmoji : List Char → Bool
  | [] => false
  | base :: rest =>
    BreakClass.of base != .regional && Property.emoji.holds base &&
      match rest with
      | [] => false
      | second :: _ =>
        second.toNat == 0xFE0F ||
          (0x1F3FB ≤ second.toNat && second.toNat ≤ 0x1F3FF && Property.tinted.holds base) ||
          (second.toNat == 0x200D && Property.pictured.holds base)

/-- The cluster is an emoji that is drawn as text. -/
def isTextEmoji : List Char → Bool
  | base :: second :: _ =>
    second.toNat == 0xFE0E && Property.pictured.holds base &&
      !(0x1F200 ≤ base.toNat && base.toNat ≤ 0x1F2FF)
  | _ => false

/-- The cells of a cluster. -/
def cellCount (cluster : List Char) : Nat :=
  if cluster = ['\r', '\n'] then 1
  else if isEmoji cluster then 2
  else if isTextEmoji cluster then 1
  else cluster.foldr (fun c count => cellCountOfChar c + count) 0

end OperatorDesk.Text
