/-
This file defines lines of text as sequences of glyphs, and the two ways of fitting a line into a
width: it is cut off, or it is wrapped at blanks. A word that is wider than the width is broken.
Blanks at a place where a line is wrapped are dropped as far as they would have fitted into the
line; the other blanks are kept.
-/

import OperatorDesk.Screen
import OperatorDesk.Text.Cluster

namespace OperatorDesk.Screen

open Text

/-- A perceived character with the room it takes. -/
structure Glyph where
  symbol : String
  cells : Nat
  /-- A line can be wrapped here. -/
  isBlank : Bool
  colour : Option Colour
  deriving DecidableEq, Repr

/-- A cluster is blank if all of it is, unless it is a no-break space. -/
def isBlankCluster (cluster : List Char) : Bool :=
  cluster == [Char.ofNat 0x200B] || (cluster.all isBlank && cluster != [Char.ofNat 0xA0])

/-- The glyphs of a text in one colour. Line feeds are left out. -/
def glyphs (colour : Option Colour) (chars : List Char) : List Glyph :=
  ((clusters chars).filter (· != ['\n'])).map fun cluster =>
    { symbol := String.ofList cluster, cells := cellCount cluster, isBlank := isBlankCluster cluster,
      colour }

/-- The room that glyphs take. -/
def widthOf : List Glyph → Nat
  | [] => 0
  | glyph :: rest => glyph.cells + widthOf rest

/-! ### Cutting off -/

/-- The glyphs that fit into a width. A glyph that is wider than the whole width is passed
over; the first other one that does not fit ends the line. -/
def cutOff (limit : Nat) (used : Nat) : List Glyph → List Glyph
  | [] => []
  | glyph :: rest =>
    if limit < glyph.cells then cutOff limit used rest
    else if limit < used + glyph.cells then []
    else glyph :: cutOff limit (used + glyph.cells) rest

/-! ### Wrapping -/

/-- A line that is being wrapped. -/
structure Wrapping where
  /-- The finished lines, the last one first. -/
  finished : List (List Glyph)
  /-- The words that are sure to stand on the line. -/
  line : List Glyph
  /-- The blanks after them. -/
  blanks : List Glyph
  /-- The word after those. -/
  word : List Glyph
  /-- The glyph before belongs to a word. -/
  inWord : Bool
  deriving DecidableEq, Repr

namespace Wrapping

/-- Nothing read yet. -/
def start : Wrapping :=
  { finished := [], line := [], blanks := [], word := [], inWord := false }

/-- Puts the blanks and the word onto the line. -/
def settleWord (state : Wrapping) : Wrapping :=
  { state with line := state.line ++ state.blanks ++ state.word, blanks := [], word := [] }

/-- Reads one more glyph of the blanks or of a word. -/
def push (state : Wrapping) (glyph : Glyph) : Wrapping :=
  if glyph.isBlank then { state with blanks := state.blanks ++ [glyph], inWord := false }
  else { state with word := state.word ++ [glyph], inWord := true }

/-- Drops the blanks that fit into what is left of a line. -/
def dropBlanks (room : Nat) : List Glyph → List Glyph
  | [] => []
  | glyph :: rest =>
    if room < glyph.cells then glyph :: rest else dropBlanks (room - glyph.cells) rest

/-- Finishes the line. -/
def breakLine (limit : Nat) (state : Wrapping) : Wrapping :=
  { state with
    finished := state.line :: state.finished
    line := []
    blanks := dropBlanks (limit - widthOf state.line) state.blanks }

/-- The word is complete, or does not fit into a line of its own. -/
def mustSettle (limit : Nat) (state : Wrapping) (glyph : Glyph) : Bool :=
  (state.inWord && glyph.isBlank) ||
    (state.line.isEmpty &&
      limit < widthOf state.word + widthOf state.blanks + glyph.cells)

/-- The line is full, or the glyph would make it too wide. -/
def mustBreak (limit : Nat) (state : Wrapping) (glyph : Glyph) : Bool :=
  limit ≤ widthOf state.line ||
    (0 < glyph.cells &&
      limit ≤ widthOf state.line + widthOf state.blanks + widthOf state.word)

/-- Reads one glyph. The blank at which a line was wrapped is not kept. -/
def read (limit : Nat) (state : Wrapping) (glyph : Glyph) : Wrapping :=
  if limit < glyph.cells then state
  else
    let state := if state.mustSettle limit glyph then state.settleWord else state
    if state.mustBreak limit glyph then
      let broken := state.breakLine limit
      if glyph.isBlank && broken.blanks.isEmpty then broken else broken.push glyph
    else state.push glyph

/-- The lines after the last glyph. A line of blanks alone comes after an empty one. -/
def lines (state : Wrapping) : List (List Glyph) :=
  let opening :=
    if state.line.isEmpty && state.word.isEmpty && !state.blanks.isEmpty then [[]] else []
  let last := state.settleWord.line
  let all := state.finished.reverse ++ opening ++ (if last.isEmpty then [] else [last])
  if all.isEmpty then [[]] else all

end Wrapping

/-- The lines of a given width into which a line is wrapped. -/
def wrap (limit : Nat) (line : List Glyph) : List (List Glyph) :=
  (line.foldl (Wrapping.read limit) .start).lines

end OperatorDesk.Screen
