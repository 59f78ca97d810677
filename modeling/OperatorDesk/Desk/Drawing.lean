/-
This file draws the desk. A header shows where the operator is and what waits, the content shows the
current view, and a footer shows the keys and the status line. When rows are scarce the content gets
the first five, the header the next three and the footer two more. Overlays are laid over all that,
each in the middle of the screen and no larger than the screen allows. What writes the texts of the
view and of the overlays into their areas is a parameter; `picture` wraps them.
-/

import OperatorDesk.Desk
import OperatorDesk.Shell.Rendering
import OperatorDesk.Screen.Frame

namespace OperatorDesk.Desk

open Screen

variable {Picture : Type}

/-! ### Areas -/

/-- The rows of the content that come first. -/
def contentRows (height : Nat) : Nat := min height 5

/-- The rows of the header. -/
def headerRows (height : Nat) : Nat := min 3 (height - contentRows height)

/-- The rows of the footer. -/
def footerRows (height : Nat) : Nat := min 2 (height - contentRows height - headerRows height)

/-- The area of the header. -/
def headerArea (screen : Area) : Area :=
  { screen with height := headerRows screen.height }

/-- The area of the content. -/
def contentArea (screen : Area) : Area :=
  { screen with
    row := screen.row + headerRows screen.height
    height := screen.height - headerRows screen.height - footerRows screen.height }

/-- The area of the footer. -/
def footerArea (screen : Area) : Area :=
  { screen with
    row := screen.row + (screen.height - footerRows screen.height)
    height := footerRows screen.height }

/-- The greatest width and height of an overlay. -/
def overlaySize (overlay : Overlay) : Nat × Nat :=
  if overlay.kind = Overlay.confirmQuitKind then (44, 9)
  else if overlay.kind = Overlay.questionKind then (70, 20)
  else (60, 28)

/-- The area of an overlay. -/
def overlayArea (screen : Area) (overlay : Overlay) : Area :=
  let width := min (overlaySize overlay).1 (screen.width - 4)
  let height := min (overlaySize overlay).2 (screen.height - 2)
  { column := screen.column + (screen.width - width) / 2
    row := screen.row + (screen.height - height) / 2
    width, height }

/-! ### Header -/

/-- Some text in one colour. -/
def part (colour : Option Colour) (text : String) : List Glyph :=
  glyphs colour text.toList

/-- The name of the program and the open views. -/
def headerTitle (shell : Shell Picture) : String :=
  " ADMIRAL │ " ++ " › ".intercalate shell.viewStack ++ " "

/-- How many questions wait, and in which colour that is said. -/
def waitingMark (shell : Shell Picture) : String × Colour :=
  if shell.questions.isEmpty then ("[no questions]", .darkGray)
  else ("[" ++ toString shell.questions.length ++ " waiting]", .yellow)

/-- The blanks that move the right part of the header to the right edge. Lengths are counted in
sixteen bits. -/
def headerSpacing (width titleLength rightLength : Nat) : Nat :=
  width - (UInt16.ofNat titleLength + UInt16.ofNat rightLength + 2).toNat

/-- The header's line: the title, and at the right the clock, the layout and what waits. -/
def headerLine (shell : Shell Picture) (clock : String) (width : Nat) : List Glyph :=
  let title := headerTitle shell
  let layout := shell.layout.label
  let (waiting, colour) := waitingMark shell
  let rightLength :=
    clock.utf8ByteSize + 2 + layout.utf8ByteSize + 2 + waiting.utf8ByteSize
  let spacing := headerSpacing width title.length rightLength
  part (some .cyan) title ++ part none (String.ofList (List.replicate spacing ' ')) ++
    part (some .darkGray) clock ++ part none "  " ++ part (some .darkGray) layout ++
    part none "  " ++ part (some colour) waiting

/-- Draws the header. -/
def headerStrokes (shell : Shell Picture) (clock : String) (area : Area) : List Stroke :=
  borderStrokes area none ++ cutLineStrokes area.inner (headerLine shell clock area.width)

/-! ### Content and footer -/

/-- Draws the current view, whose text is given. -/
def contentStrokes (write : TextWriter) (shell : Shell Picture) (text : String) (area : Area) :
    List Stroke :=
  borderStrokes area none ++
    titleStrokes area (part (some .white) (" " ++ shell.currentView ++ " ")) ++
    write area.inner text

/-- A key and what it does. -/
def keyHint (key does : String) : List Glyph :=
  part (some .cyan) key ++ part none does

/-- The footer's line: the keys, and the status if there is one. -/
def footerLine (shell : Shell Picture) : List Glyph :=
  keyHint "[enter]" "Open " ++ keyHint "[esc]" "Back " ++ keyHint "[tab]" "Panel " ++
    keyHint "[a]" "Questions " ++ keyHint "[?]" "Help " ++ keyHint "[q]" "Quit" ++
    match shell.status with
    | some status => part none "  │ " ++ part (some .yellow) status
    | none => []

/-- Draws the footer. -/
def footerStrokes (shell : Shell Picture) (area : Area) : List Stroke :=
  area.fill (.tint (some .gray)) ++ topEdgeStrokes area ++
    cutLineStrokes area.belowFirstRow (footerLine shell)

/-! ### Overlays -/

/-- The colour of an overlay's frame. -/
def overlayColour (overlay : Overlay) : Colour :=
  if overlay.kind = Overlay.questionKind then .yellow else .cyan

/-- Draws an overlay. -/
def overlayStrokes (write : TextWriter) (shell : Shell Picture) (screen : Area)
    (overlay : Overlay) : List Stroke :=
  let area := overlayArea screen overlay
  let colour := some (overlayColour overlay)
  area.fill .erase ++ area.fill (.tint (some .white)) ++ borderStrokes area colour ++
    titleStrokes area (part colour (" " ++ overlay.title ++ " ")) ++
    write area.inner (shell.overlayBody overlay)

/-! ### The whole screen -/

/-- Draws everything but the overlays. The text of the current view is given. -/
def baseStrokes (write : TextWriter) (shell : Shell Picture) (clock viewText : String)
    (screen : Area) : List Stroke :=
  headerStrokes shell clock (headerArea screen) ++
    contentStrokes write shell viewText (contentArea screen) ++
    footerStrokes shell (footerArea screen)

/-- Draws all overlays, the lowest first. -/
def overlaysStrokes (write : TextWriter) (shell : Shell Picture) (screen : Area) : List Stroke :=
  shell.overlays.reverse.flatMap (overlayStrokes write shell screen)

/-- The screen with the desk on it. -/
def pictureWith (write : TextWriter) (shell : Shell Picture) (clock viewText : String)
    (width height : Nat) : Screen :=
  let screen := Screen.blank width height
  (screen.drawAll (baseStrokes write shell clock viewText screen.area)).drawAll
    (overlaysStrokes write shell screen.area)

/-- The screen with the desk on it, where texts are wrapped. -/
def picture (shell : Shell Picture) (clock viewText : String) (width height : Nat) : Screen :=
  pictureWith wrappedTextStrokes shell clock viewText width height

end OperatorDesk.Desk
