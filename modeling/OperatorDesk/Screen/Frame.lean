/-
This file draws frames and what stands in them. A frame has a border around an area and a title
in its upper edge; a paragraph writes lines into an area and leaves out what has no room. All
strokes stay inside the area they are given.
-/

import OperatorDesk.Screen.Line

namespace OperatorDesk.Screen

/-! ### Borders -/

/-- The border of an area. Where edges meet in one cell the upper left corner is drawn last. -/
def borderStrokes (area : Area) (colour : Option Colour) : List Stroke :=
  let right := area.column + area.width - 1
  let bottom := area.row + area.height - 1
  let rows := (List.range area.height).map (area.row + ·)
  let columns := (List.range area.width).map (area.column + ·)
  if area.isEmpty then []
  else
    rows.map (fun row => { column := area.column, row, ink := .write "│" colour }) ++
      columns.map (fun column => { column, row := area.row, ink := .write "─" colour }) ++
      rows.map (fun row => { column := right, row, ink := .write "│" colour }) ++
      columns.map (fun column => { column, row := bottom, ink := .write "─" colour }) ++
      [ { column := right, row := bottom, ink := .write "┘" colour },
        { column := right, row := area.row, ink := .write "┐" colour },
        { column := area.column, row := bottom, ink := .write "└" colour },
        { column := area.column, row := area.row, ink := .write "┌" colour } ]

/-- The upper edge of an area. -/
def topEdgeStrokes (area : Area) : List Stroke :=
  if area.isEmpty then []
  else (List.range area.width).map fun column =>
    { column := area.column + column, row := area.row, ink := .write "─" none }

/-! ### Titles -/

/-- The cells behind the first one of a wide glyph are erased. -/
def eraseFrom (column row : Nat) : Nat → List Stroke
  | 0 => []
  | count + 1 => { column, row, ink := .erase } :: eraseFrom (column + 1) row count

/-- The glyphs of a title from a column on, up to the column where the room ends. A glyph that
takes no cell is added to the cell before it. -/
def titleStrokesFrom (first finish row : Nat) (isFirst : Bool) (column : Nat) :
    List Glyph → List Stroke
  | [] => []
  | glyph :: rest =>
    if finish < column + glyph.cells then []
    else
      let stroke : Stroke :=
        if isFirst then { column, row, ink := .write glyph.symbol glyph.colour }
        else if column = first then { column, row, ink := .append glyph.symbol glyph.colour }
        else if glyph.cells = 0 then
          { column := column - 1, row, ink := .append glyph.symbol glyph.colour }
        else { column, row, ink := .write glyph.symbol glyph.colour }
      (stroke :: eraseFrom (column + 1) row (glyph.cells - 1)) ++
        titleStrokesFrom first finish row false (column + glyph.cells) rest

/-- A title in the upper edge of an area, between the corners. -/
def titleStrokes (area : Area) (title : List Glyph) : List Stroke :=
  if area.width ≤ 2 ∨ area.height = 0 then []
  else
    titleStrokesFrom (area.column + 1) (area.column + area.width - 1) area.row true
      (area.column + 1) title

/-! ### Paragraphs -/

/-- A line of glyphs from a column on. Glyphs that take no cell are not drawn. -/
def lineStrokes (column row : Nat) : List Glyph → List Stroke
  | [] => []
  | glyph :: rest =>
    if glyph.cells = 0 then lineStrokes column row rest
    else
      { column, row, ink := .write glyph.symbol glyph.colour } ::
        lineStrokes (column + glyph.cells) row rest

/-- Lines from the top of an area down to its bottom. -/
def linesStrokes (area : Area) (lines : List (List Glyph)) : List Stroke :=
  if area.isEmpty then []
  else
    (((lines.take area.height).zipIdx).map fun (line, index) =>
      lineStrokes area.column (area.row + index) line).flatten

/-- One line, cut off at the right edge of an area. -/
def cutLineStrokes (area : Area) (line : List Glyph) : List Stroke :=
  linesStrokes area [cutOff area.width 0 line]

/-- What writes a text into an area. -/
abbrev TextWriter := Area → String → List Stroke

/-- A text whose lines are wrapped into an area. -/
def wrappedTextStrokes (area : Area) (text : String) : List Stroke :=
  linesStrokes area
    ((Text.linesOf text.toList).flatMap fun line => wrap area.width (glyphs none line))

end OperatorDesk.Screen
