/-
This file defines the screen as a grid of cells, and drawing as a list of strokes. A stroke
changes one cell; a stroke outside the grid changes nothing.
-/

namespace OperatorDesk

/-- The colours of what stands in a cell. -/
inductive Colour where
  | cyan
  | yellow
  | darkGray
  | gray
  | white
  deriving DecidableEq, Repr

/-- One place of the screen. -/
structure Cell where
  symbol : String
  colour : Option Colour
  deriving DecidableEq, Repr

/-- A cell with nothing in it. -/
def Cell.blank : Cell := { symbol := " ", colour := none }

/-- What a stroke does to a cell. Without a colour the cell keeps its own. -/
inductive Ink where
  | erase
  | tint (colour : Option Colour)
  | write (symbol : String) (colour : Option Colour)
  /-- Adds a mark that takes no room to what stands in the cell. -/
  | append (mark : String) (colour : Option Colour)
  deriving DecidableEq, Repr

/-- The cell after a stroke. -/
def Ink.applyTo (cell : Cell) : Ink → Cell
  | .erase => .blank
  | .tint colour => { cell with colour := colour.or cell.colour }
  | .write symbol colour => { symbol, colour := colour.or cell.colour }
  | .append mark colour => { symbol := cell.symbol ++ mark, colour := colour.or cell.colour }

/-- A change of the cell in a column and a row. -/
structure Stroke where
  column : Nat
  row : Nat
  ink : Ink
  deriving DecidableEq, Repr

/-- A rectangle of cells. -/
structure Area where
  column : Nat
  row : Nat
  width : Nat
  height : Nat
  deriving DecidableEq, Repr

namespace Area

/-- The cell in this column and row belongs to the rectangle. -/
def Contains (area : Area) (column row : Nat) : Prop :=
  area.column ≤ column ∧ column < area.column + area.width ∧
    area.row ≤ row ∧ row < area.row + area.height

/-- The rectangle has no cells. -/
def isEmpty (area : Area) : Bool :=
  area.width == 0 || area.height == 0

/-- What is left without the outermost cells. -/
def inner (area : Area) : Area :=
  { column := area.column + 1, row := area.row + 1, width := area.width - 2,
    height := area.height - 2 }

/-- What is left without the first row. -/
def belowFirstRow (area : Area) : Area :=
  { area with row := area.row + 1, height := area.height - 1 }

/-- The positions of the cells, row by row. -/
def positions (area : Area) : List (Nat × Nat) :=
  (List.range area.height).flatMap fun row =>
    (List.range area.width).map fun column => (area.column + column, area.row + row)

/-- The same stroke on every cell. -/
def fill (area : Area) (ink : Ink) : List Stroke :=
  area.positions.map fun (column, row) => { column, row, ink }

end Area

/-- A grid of cells, kept row by row. -/
structure Screen where
  width : Nat
  height : Nat
  cells : Array Cell

namespace Screen

/-- A screen with nothing on it. -/
def blank (width height : Nat) : Screen :=
  { width, height, cells := Array.replicate (width * height) .blank }

/-- The whole grid. -/
def area (screen : Screen) : Area :=
  { column := 0, row := 0, width := screen.width, height := screen.height }

/-- What stands in a cell. -/
def cell (screen : Screen) (column row : Nat) : Cell :=
  screen.cells.getD (row * screen.width + column) .blank

/-- The screen after a stroke. -/
def draw (screen : Screen) (stroke : Stroke) : Screen :=
  if stroke.column < screen.width ∧ stroke.row < screen.height then
    { screen with
      cells := screen.cells.modify (stroke.row * screen.width + stroke.column)
        fun cell => stroke.ink.applyTo cell }
  else screen

/-- The screen after some strokes. -/
def drawAll (screen : Screen) (strokes : List Stroke) : Screen :=
  strokes.foldl draw screen

/-- The cells of a row from left to right. -/
def rowCells (screen : Screen) (row : Nat) : List Cell :=
  (List.range screen.width).map fun column => screen.cell column row

/-- The symbols of a row from left to right. -/
def rowText (screen : Screen) (row : Nat) : String :=
  String.join ((screen.rowCells row).map Cell.symbol)

end Screen

end OperatorDesk
