/-
This file says that strokes change only the cells that they are made on. Whatever is drawn inside an
area leaves all cells outside it as they are. Drawing never changes the size of the screen.
-/

import OperatorDesk.Screen

namespace OperatorDesk

namespace Screen

variable {screen before middle after : Screen}

/-! ### One stroke -/

@[simp]
theorem width_draw (screen : Screen) (stroke : Stroke) :
    (screen.draw stroke).width = screen.width := by
  unfold draw
  split <;> rfl

@[simp]
theorem height_draw (screen : Screen) (stroke : Stroke) :
    (screen.draw stroke).height = screen.height := by
  unfold draw
  split <;> rfl

/-- Two places of the grid with the same position are the same. -/
theorem place_eq {width firstColumn firstRow secondColumn secondRow : Nat}
    (first : firstColumn < width) (second : secondColumn < width)
    (same : firstRow * width + firstColumn = secondRow * width + secondColumn) :
    firstColumn = secondColumn ∧ firstRow = secondRow := by
  have positive : 0 < width := Nat.zero_lt_of_lt first
  have columns := congrArg (· % width) same
  have rows := congrArg (· / width) same
  simp only [Nat.mul_comm _ width, Nat.mul_add_mod, Nat.mod_eq_of_lt first,
    Nat.mod_eq_of_lt second] at columns
  simp only [Nat.mul_comm _ width, Nat.mul_add_div positive, Nat.div_eq_of_lt first,
    Nat.div_eq_of_lt second, Nat.add_zero] at rows
  exact ⟨columns, rows⟩

/-- A stroke leaves every other cell alone. -/
theorem cell_draw_of_ne {stroke : Stroke} {column row : Nat} (inside : column < screen.width)
    (elsewhere : ¬(stroke.column = column ∧ stroke.row = row)) :
    (screen.draw stroke).cell column row = screen.cell column row := by
  unfold draw
  split
  · next onGrid =>
    have apart : stroke.row * screen.width + stroke.column ≠ row * screen.width + column :=
      fun same => elsewhere (place_eq onGrid.1 inside same)
    simp only [cell, Array.getD_eq_getD_getElem?, Array.getElem?_modify, if_neg apart]
  · rfl

/-! ### Many strokes -/

/-- Only these cells may be different. -/
structure ChangesOnly (may : Nat → Nat → Prop) (before after : Screen) : Prop where
  width : after.width = before.width
  height : after.height = before.height
  cell : ∀ column row, column < before.width → ¬may column row →
    after.cell column row = before.cell column row

theorem ChangesOnly.refl (may : Nat → Nat → Prop) (screen : Screen) :
    ChangesOnly may screen screen :=
  ⟨rfl, rfl, fun _ _ _ _ => rfl⟩

theorem ChangesOnly.trans {may : Nat → Nat → Prop} (first : ChangesOnly may before middle)
    (second : ChangesOnly may middle after) : ChangesOnly may before after where
  width := second.width.trans first.width
  height := second.height.trans first.height
  cell column row inside outside :=
    (second.cell column row (first.width ▸ inside) outside).trans
      (first.cell column row inside outside)

theorem changesOnly_draw {may : Nat → Nat → Prop} (screen : Screen) {stroke : Stroke}
    (made : may stroke.column stroke.row) : ChangesOnly may screen (screen.draw stroke) where
  width := width_draw screen stroke
  height := height_draw screen stroke
  cell _ _ inside outside := cell_draw_of_ne inside fun ⟨sameColumn, sameRow⟩ =>
    outside (sameColumn ▸ sameRow ▸ made)

theorem changesOnly_drawAll {may : Nat → Nat → Prop} (screen : Screen) {strokes : List Stroke}
    (made : ∀ stroke ∈ strokes, may stroke.column stroke.row) :
    ChangesOnly may screen (screen.drawAll strokes) := by
  induction strokes generalizing screen with
  | nil => exact .refl may screen
  | cons stroke rest inductionHypothesis =>
    exact (changesOnly_draw screen (made stroke List.mem_cons_self)).trans
      (inductionHypothesis _ fun other member => made other (List.mem_cons_of_mem _ member))

@[simp]
theorem width_drawAll (screen : Screen) (strokes : List Stroke) :
    (screen.drawAll strokes).width = screen.width :=
  (@changesOnly_drawAll (fun _ _ => True) screen strokes fun _ _ => trivial).width

end Screen

/-! ### Strokes inside an area -/

namespace Area

variable {area : Area} {strokes others : List Stroke}

instance (area : Area) (column row : Nat) : Decidable (area.Contains column row) := by
  unfold Contains
  infer_instance

/-- All strokes are made inside the area. -/
def Bounds (area : Area) (strokes : List Stroke) : Prop :=
  ∀ stroke ∈ strokes, area.Contains stroke.column stroke.row

theorem bounds_nil (area : Area) : area.Bounds [] := nofun

theorem Bounds.append (bounds : area.Bounds strokes) (more : area.Bounds others) :
    area.Bounds (strokes ++ others) := by
  intro stroke member
  rcases List.mem_append.mp member with member | member
  · exact bounds stroke member
  · exact more stroke member

theorem Bounds.cons {stroke : Stroke} (first : area.Contains stroke.column stroke.row)
    (rest : area.Bounds strokes) : area.Bounds (stroke :: strokes) :=
  List.forall_mem_cons.mpr ⟨first, rest⟩

/-- What is drawn inside an area is drawn inside every area around it. -/
theorem Bounds.within {outer : Area}
    (around : ∀ column row, area.Contains column row → outer.Contains column row)
    (bounds : area.Bounds strokes) : outer.Bounds strokes :=
  fun stroke member => around _ _ (bounds stroke member)

theorem bounds_map {Item : Type} {items : List Item} {stroke : Item → Stroke}
    (each : ∀ item ∈ items, area.Contains (stroke item).column (stroke item).row) :
    area.Bounds (items.map stroke) :=
  List.forall_mem_map.mpr each

theorem mem_positions_iff {column row : Nat} :
    (column, row) ∈ area.positions ↔ area.Contains column row := by
  unfold positions Contains
  simp only [List.mem_flatMap, List.mem_range, List.mem_map, Prod.mk.injEq]
  constructor
  · rintro ⟨down, inHeight, right, inWidth, rfl, rfl⟩
    omega
  · rintro ⟨left, right, top, bottom⟩
    exact ⟨row - area.row, by omega, column - area.column, by omega, by omega, by omega⟩

theorem bounds_fill (area : Area) (ink : Ink) : area.Bounds (area.fill ink) :=
  bounds_map fun _ member => mem_positions_iff.mp member

theorem contains_of_inner {column row : Nat} (contains : area.inner.Contains column row) :
    area.Contains column row := by
  unfold Contains inner at *
  dsimp only at contains
  omega

theorem contains_of_belowFirstRow {column row : Nat}
    (contains : area.belowFirstRow.Contains column row) : area.Contains column row := by
  unfold Contains belowFirstRow at *
  dsimp only at contains
  omega

end Area

end OperatorDesk
