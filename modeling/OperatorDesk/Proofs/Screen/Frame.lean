/-
This file says that frames and texts stay where they belong. The border of an area and the title in
its upper edge are drawn inside it. A line is drawn inside an area if each of its glyphs begins
before the right edge.
-/

import OperatorDesk.Proofs.Screen.Drawing
import OperatorDesk.Screen.Frame

namespace OperatorDesk.Screen

open Area

/-! ### Borders -/

theorem size_pos {area : Area} (filled : area.isEmpty = false) :
    0 < area.width ∧ 0 < area.height := by
  simp only [Area.isEmpty, Bool.or_eq_false_iff, beq_eq_false_iff_ne] at filled
  omega

theorem bounds_borderStrokes (area : Area) (colour : Option Colour) :
    area.Bounds (borderStrokes area colour) := by
  unfold borderStrokes
  split
  · exact bounds_nil area
  · next filled =>
    have size := size_pos (Bool.eq_false_iff.mpr filled)
    -- An edge keeps one coordinate and runs over the other; a corner is a single cell.
    have vertical (column : Nat) (ink : Ink) (left : area.column ≤ column)
        (right : column < area.column + area.width) :
        area.Bounds (((List.range area.height).map (area.row + ·)).map
          fun row => { column, row, ink }) := by
      refine bounds_map fun row member => ?_
      obtain ⟨down, inHeight, rfl⟩ := List.mem_map.mp member
      have := List.mem_range.mp inHeight
      exact ⟨left, right, by dsimp only; omega, by dsimp only; omega⟩
    have horizontal (row : Nat) (ink : Ink) (top : area.row ≤ row)
        (bottom : row < area.row + area.height) :
        area.Bounds (((List.range area.width).map (area.column + ·)).map
          fun column => { column, row, ink }) := by
      refine bounds_map fun column member => ?_
      obtain ⟨right, inWidth, rfl⟩ := List.mem_map.mp member
      have := List.mem_range.mp inWidth
      exact ⟨by dsimp only; omega, by dsimp only; omega, top, bottom⟩
    have corners : area.Bounds
        [ { column := area.column + area.width - 1, row := area.row + area.height - 1,
            ink := .write "┘" colour },
          { column := area.column + area.width - 1, row := area.row, ink := .write "┐" colour },
          { column := area.column, row := area.row + area.height - 1, ink := .write "└" colour },
          { column := area.column, row := area.row, ink := .write "┌" colour } ] := by
      simp only [Bounds, List.forall_mem_cons, Contains]
      refine ⟨?_, ?_, ?_, ?_, nofun⟩ <;> omega
    exact ((((vertical _ _ (by omega) (by omega)).append
      (horizontal _ _ (by omega) (by omega))).append
      (vertical _ _ (by omega) (by omega))).append
      (horizontal _ _ (by omega) (by omega))).append corners

theorem bounds_topEdgeStrokes (area : Area) : area.Bounds (topEdgeStrokes area) := by
  unfold topEdgeStrokes
  split
  · exact bounds_nil area
  · next filled =>
    have size := size_pos (Bool.eq_false_iff.mpr filled)
    refine bounds_map fun column member => ?_
    have inWidth := List.mem_range.mp member
    exact ⟨by dsimp only; omega, by dsimp only; omega, by dsimp only; omega, by dsimp only; omega⟩

/-! ### Titles -/

/-- All strokes are made in one row, between two columns. -/
def StaysBetween (first finish row : Nat) (strokes : List Stroke) : Prop :=
  ∀ stroke ∈ strokes, first ≤ stroke.column ∧ stroke.column < finish ∧ stroke.row = row

theorem staysBetween_eraseFrom {first finish row column count : Nat} (left : first ≤ column)
    (right : column + count ≤ finish) :
    StaysBetween first finish row (eraseFrom column row count) := by
  induction count generalizing column with
  | zero => exact nofun
  | succ count inductionHypothesis =>
    exact List.forall_mem_cons.mpr
      ⟨⟨left, by dsimp only; omega, rfl⟩, inductionHypothesis (by omega) (by omega)⟩

/-- A mark that takes no cell may come when the room is used up. It goes to the cell before, unless
nothing was drawn yet, and then there is room. -/
theorem staysBetween_titleStrokesFrom {first finish row column : Nat} {isFirst : Bool}
    (room : first < finish) (left : first ≤ column) (fresh : isFirst = true → column < finish)
    (title : List Glyph) :
    StaysBetween first finish row (titleStrokesFrom first finish row isFirst column title) := by
  induction title generalizing column isFirst with
  | nil => exact nofun
  | cons glyph rest inductionHypothesis =>
    unfold titleStrokesFrom
    split
    · exact nofun
    · next fits =>
      have following : StaysBetween first finish row
          (titleStrokesFrom first finish row false (column + glyph.cells) rest) :=
        inductionHypothesis (by omega) nofun
      refine List.forall_mem_append.mpr ⟨List.forall_mem_cons.mpr ⟨?_, ?_⟩, following⟩
      · split
        · next isFresh => exact ⟨left, fresh isFresh, rfl⟩
        · split
          · exact ⟨left, by dsimp only; omega, rfl⟩
          · split
            · exact ⟨by dsimp only; omega, by dsimp only; omega, rfl⟩
            · exact ⟨left, by dsimp only; omega, rfl⟩
      · by_cases wide : 1 < glyph.cells
        · exact staysBetween_eraseFrom (by omega) (by omega)
        · have noneBehind : glyph.cells - 1 = 0 := by omega
          rw [noneBehind]
          exact nofun

theorem bounds_titleStrokes (area : Area) (title : List Glyph) :
    area.Bounds (titleStrokes area title) := by
  unfold titleStrokes
  split
  · exact bounds_nil area
  · next size =>
    intro stroke member
    obtain ⟨left, right, sameRow⟩ :=
      staysBetween_titleStrokesFrom (by omega) (Nat.le_refl _) (fun _ => by omega) title stroke member
    unfold Contains
    omega

/-! ### Lines -/

/-- Every glyph that is drawn begins before the limit. -/
def BeginsBefore (limit : Nat) (used : Nat) : List Glyph → Prop
  | [] => True
  | glyph :: rest =>
    (glyph.cells = 0 ∨ used < limit) ∧ BeginsBefore limit (used + glyph.cells) rest

theorem staysBetween_lineStrokes {first column row used limit : Nat} {line : List Glyph}
    (left : first ≤ column) (place : column = first + used)
    (begins : BeginsBefore limit used line) :
    StaysBetween first (first + limit) row (lineStrokes column row line) := by
  induction line generalizing column used with
  | nil => exact nofun
  | cons glyph rest inductionHypothesis =>
    have following : StaysBetween first (first + limit) row
        (lineStrokes (column + glyph.cells) row rest) :=
      inductionHypothesis (by omega) (by omega) begins.2
    unfold lineStrokes
    split
    · next noCell => simpa only [noCell, Nat.add_zero] using following
    · next cells =>
      have inside := begins.1.resolve_left cells
      exact List.forall_mem_cons.mpr ⟨⟨left, by dsimp only; omega, rfl⟩, following⟩

/-- Lines are drawn inside an area that is as high as theirs, and as wide as the lines need. -/
theorem bounds_linesStrokes {area outer : Area} {lines : List (List Glyph)} {limit : Nat}
    (begins : ∀ line ∈ lines, BeginsBefore limit 0 line)
    (left : outer.column ≤ area.column)
    (right : area.column + limit ≤ outer.column + outer.width)
    (top : outer.row ≤ area.row)
    (bottom : area.row + area.height ≤ outer.row + outer.height) :
    outer.Bounds (linesStrokes area lines) := by
  unfold linesStrokes
  split
  · exact bounds_nil outer
  · intro stroke member
    obtain ⟨strokes, ofLine, member⟩ := List.mem_flatten.mp member
    obtain ⟨⟨line, index⟩, indexed, rfl⟩ := List.mem_map.mp ofLine
    have inLines : line ∈ lines := List.mem_of_mem_take (List.fst_mem_of_mem_zipIdx indexed)
    have inHeight : index < area.height := by
      have := (List.mem_zipIdx indexed).2.1
      rw [List.length_take] at this
      omega
    obtain ⟨after, before, sameRow⟩ :=
      staysBetween_lineStrokes (Nat.le_refl area.column) rfl (begins line inLines) stroke member
    unfold Contains
    omega

theorem beginsBefore_cutOff (limit used : Nat) (line : List Glyph) :
    BeginsBefore limit used (cutOff limit used line) := by
  induction line generalizing used with
  | nil => trivial
  | cons glyph rest inductionHypothesis =>
    unfold cutOff
    split
    · exact inductionHypothesis used
    · split
      · trivial
      · exact ⟨by omega, inductionHypothesis _⟩

theorem bounds_cutLineStrokes (area : Area) (line : List Glyph) :
    area.Bounds (cutLineStrokes area line) :=
  bounds_linesStrokes (List.forall_mem_singleton.mpr (beginsBefore_cutOff area.width 0 line))
    (Nat.le_refl _) (Nat.le_refl _) (Nat.le_refl _) (Nat.le_refl _)

end OperatorDesk.Screen
