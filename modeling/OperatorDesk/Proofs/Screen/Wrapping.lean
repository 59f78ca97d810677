/-
This file says that wrapped texts stay inside their frame. Every glyph of a wrapped line begins at
the latest right behind the width, if no glyph takes more than two cells and every blank takes one.
So a text that is wrapped into what a border leaves never reaches beyond the border.
-/

import OperatorDesk.Proofs.Screen.Frame

namespace OperatorDesk.Screen

/-! ### Widths and beginnings -/

@[simp]
theorem widthOf_append (line rest : List Glyph) :
    widthOf (line ++ rest) = widthOf line + widthOf rest := by
  induction line with
  | nil => simp only [List.nil_append, widthOf, Nat.zero_add]
  | cons glyph line inductionHypothesis =>
    simp only [List.cons_append, widthOf, inductionHypothesis, Nat.add_assoc]

theorem widthOf_le_of_suffix {line whole : List Glyph} (suffix : line <:+ whole) :
    widthOf line ≤ widthOf whole := by
  obtain ⟨front, rfl⟩ := suffix
  simp only [widthOf_append, Nat.le_add_left]

theorem beginsBefore_append {limit used : Nat} {line rest : List Glyph} :
    BeginsBefore limit used (line ++ rest) ↔
      BeginsBefore limit used line ∧ BeginsBefore limit (used + widthOf line) rest := by
  induction line generalizing used with
  | nil => simp only [List.nil_append, BeginsBefore, widthOf, Nat.add_zero, true_and]
  | cons glyph line inductionHypothesis =>
    simp only [List.cons_append, BeginsBefore, widthOf, inductionHypothesis, and_assoc,
      Nat.add_assoc]

/-- What begins early enough does so further to the left as well. -/
theorem BeginsBefore.mono {limit used less : Nat} {line : List Glyph} (earlier : less ≤ used)
    (begins : BeginsBefore limit used line) : BeginsBefore limit less line := by
  induction line generalizing used less with
  | nil => trivial
  | cons glyph line inductionHypothesis =>
    exact ⟨begins.1.imp_right (Nat.lt_of_le_of_lt earlier),
      inductionHypothesis (Nat.add_le_add_right earlier _) begins.2⟩

theorem BeginsBefore.suffix {limit : Nat} {line whole : List Glyph} (suffix : line <:+ whole)
    (begins : BeginsBefore limit 0 whole) : BeginsBefore limit 0 line := by
  obtain ⟨front, rfl⟩ := suffix
  exact (beginsBefore_append.mp begins).2.mono (Nat.zero_le _)

/-! ### Dropped blanks -/

namespace Wrapping

theorem dropBlanks_suffix (room : Nat) (blanks : List Glyph) :
    dropBlanks room blanks <:+ blanks := by
  induction blanks generalizing room with
  | nil => exact List.suffix_refl []
  | cons glyph rest inductionHypothesis =>
    unfold dropBlanks
    split
    · exact List.suffix_refl _
    · exact (inductionHypothesis _).trans (List.suffix_cons glyph rest)

/-- What is kept of the blanks begins where they no longer fit. -/
theorem widthOf_dropBlanks {room most : Nat} {blanks : List Glyph}
    (narrow : ∀ glyph ∈ blanks, glyph.cells ≤ most) :
    dropBlanks room blanks = [] ∨ room + widthOf (dropBlanks room blanks) < widthOf blanks + most := by
  induction blanks generalizing room with
  | nil => exact .inl rfl
  | cons glyph rest inductionHypothesis =>
    have first := narrow glyph List.mem_cons_self
    have others := @inductionHypothesis (room - glyph.cells)
      fun other member => narrow other (List.mem_cons_of_mem _ member)
    have whole : widthOf (glyph :: rest) = glyph.cells + widthOf rest := rfl
    unfold dropBlanks
    split
    · right; omega
    · exact others.imp_right fun kept => by omega

end Wrapping

/-! ### One glyph -/

/-- The glyph takes at most two cells, and at least one if it is blank. -/
def Glyph.IsPlain (glyph : Glyph) : Prop :=
  glyph.cells ≤ 2 ∧ (glyph.isBlank = true → 0 < glyph.cells)

instance (glyph : Glyph) : Decidable glyph.IsPlain := by
  unfold Glyph.IsPlain
  infer_instance

namespace Wrapping

variable {limit : Nat} {state : Wrapping} {glyph : Glyph}

/-- All glyphs that are still on the line, in their order. -/
def current (state : Wrapping) : List Glyph := state.line ++ state.blanks ++ state.word

/-- Every glyph of the lines begins in time; the last one may reach over the width by one cell. -/
structure Begins (limit : Nat) (state : Wrapping) : Prop where
  finished : ∀ line ∈ state.finished, BeginsBefore (limit + 1) 0 line
  current : BeginsBefore (limit + 1) 0 state.current
  narrow : ∀ glyph ∈ state.blanks, glyph.cells ≤ min 2 limit

/-- What reading preserves. -/
structure Fits (limit : Nat) (state : Wrapping) : Prop extends Begins limit state where
  resting : state.inWord = false → state.word = []
  room : state.line ≠ [] → widthOf state.current < limit + min 2 limit
  started : state.line ≠ [] → 0 < widthOf state.line + widthOf state.blanks

/-- A state that can take one more glyph. -/
structure Admits (limit : Nat) (state : Wrapping) (glyph : Glyph) : Prop
    extends Begins limit state where
  order : glyph.isBlank = true → state.word = []
  place : glyph.cells = 0 ∨ widthOf state.current ≤ limit
  room : state.line ≠ [] → widthOf state.current + glyph.cells < limit + min 2 limit
  started : state.line ≠ [] →
    glyph.isBlank = true ∨ 0 < widthOf state.line + widthOf state.blanks

theorem fits_start (limit : Nat) : start.Fits limit where
  finished := nofun
  current := trivial
  narrow := nofun
  resting _ := rfl
  room := nofun
  started := nofun

theorem widthOf_current (state : Wrapping) : widthOf state.current =
    widthOf state.line + widthOf state.blanks + widthOf state.word := by
  simp only [current, widthOf_append]

/-! ### Taking a glyph -/

/-- A pushed glyph comes after all others. -/
theorem current_push (order : glyph.isBlank = true → state.word = []) :
    (state.push glyph).current = state.current ++ [glyph] := by
  unfold push current
  split
  · next blank => simp only [order blank, List.append_nil, List.append_assoc]
  · simp only [List.append_assoc]

theorem Admits.push (admits : state.Admits limit glyph) (plain : glyph.IsPlain)
    (fitting : glyph.cells ≤ limit) : (state.push glyph).Fits limit := by
  have sameLine : (state.push glyph).line = state.line := by unfold Wrapping.push; split <;> rfl
  have sameFinished : (state.push glyph).finished = state.finished := by
    unfold Wrapping.push; split <;> rfl
  have longer := current_push admits.order
  refine ⟨⟨sameFinished ▸ admits.finished, ?_, ?_⟩, ?_, ?_, ?_⟩
  · rw [longer]
    refine beginsBefore_append.mpr ⟨admits.current, ?_, trivial⟩
    exact admits.place.imp_right fun _ => by omega
  · unfold Wrapping.push
    split
    · refine List.forall_mem_append.mpr ⟨admits.narrow, List.forall_mem_singleton.mpr ?_⟩
      exact Nat.le_min.mpr ⟨plain.1, fitting⟩
    · exact admits.narrow
  · unfold Wrapping.push
    split
    · next blank => exact fun _ => admits.order blank
    · exact nofun
  · intro filled
    rw [longer, widthOf_append]
    exact admits.room (sameLine ▸ filled)
  · intro filled
    have begun := admits.started (sameLine ▸ filled)
    unfold Wrapping.push
    split
    · next blank =>
      have := plain.2 blank
      simp only [widthOf_append, widthOf]
      omega
    · next letter => exact begun.resolve_left letter

/-- A blank that completes no word comes when there is none. -/
theorem Fits.order (fits : state.Fits limit) (unsettled : state.mustSettle limit glyph = false) :
    glyph.isBlank = true → state.word = [] := by
  intro blank
  simp only [mustSettle, blank, Bool.and_true, Bool.or_eq_false_iff] at unsettled
  exact fits.resting unsettled.1

/-- A state whose line goes on takes a glyph that neither completes a word nor fills the line. -/
theorem Fits.admits (fits : state.Fits limit) (plain : glyph.IsPlain)
    (fitting : glyph.cells ≤ limit) (unsettled : state.mustSettle limit glyph = false)
    (unbroken : state.mustBreak limit glyph = false) : state.Admits limit glyph := by
  have width := widthOf_current state
  have atMostTwo := plain.1
  simp only [mustBreak, Bool.or_eq_false_iff, Bool.and_eq_false_iff, decide_eq_false_iff_not,
    Nat.not_le, Nat.not_lt] at unbroken
  refine ⟨fits.toBegins, fits.order unsettled, by omega, fun filled => ?_,
    fun filled => .inr (fits.started filled)⟩
  have := fits.room filled
  omega

/-! ### Settling words -/

theorem current_settleWord (state : Wrapping) : state.settleWord.current = state.current := by
  simp only [settleWord, current, List.append_nil]

theorem Begins.settleWord (begins : state.Begins limit) : state.settleWord.Begins limit where
  finished := begins.finished
  current := current_settleWord state ▸ begins.current
  narrow := nofun

/-- A word is complete at a blank, or is too wide for a line of its own; either way the line takes
some room afterwards. -/
theorem Begins.admits_settleWord (begins : state.Begins limit) (plain : glyph.IsPlain)
    (fitting : glyph.cells ≤ limit) (settles : state.mustSettle limit glyph = true)
    (unbroken : state.settleWord.mustBreak limit glyph = false) :
    state.settleWord.Admits limit glyph := by
  have width : widthOf state.settleWord.current = widthOf state.settleWord.line := by
    simp only [Wrapping.current, Wrapping.settleWord, List.append_nil]
  have atMostTwo := plain.1
  simp only [mustBreak, Bool.or_eq_false_iff, decide_eq_false_iff_not, Nat.not_le] at unbroken
  refine ⟨begins.settleWord, fun _ => rfl, .inr (by omega), fun _ => by omega, fun _ => ?_⟩
  simp only [mustSettle, Bool.or_eq_true, Bool.and_eq_true, decide_eq_true_eq] at settles
  refine settles.imp And.right fun ⟨_, wide⟩ => ?_
  simp only [Wrapping.settleWord, widthOf_append, widthOf]
  omega

/-! ### Breaking lines -/

/-- A line that is broken leaves the word, and blanks that do not fit. -/
theorem Begins.breakLine (begins : state.Begins limit) : (state.breakLine limit).Begins limit where
  finished := by
    have parts := beginsBefore_append.mp (beginsBefore_append.mp begins.current).1
    exact List.forall_mem_cons.mpr ⟨parts.1, begins.finished⟩
  current := by
    obtain ⟨dropped, split⟩ := dropBlanks_suffix (limit - widthOf state.line) state.blanks
    refine begins.current.suffix ⟨state.line ++ dropped, ?_⟩
    simp only [Wrapping.current, Wrapping.breakLine, List.nil_append, List.append_assoc]
    rw [← List.append_assoc dropped, split]
  narrow glyph member := begins.narrow glyph ((dropBlanks_suffix _ _).subset member)

theorem Begins.fits_breakLine (begins : state.Begins limit)
    (resting : state.inWord = false → state.word = []) : (state.breakLine limit).Fits limit :=
  ⟨begins.breakLine, resting, nofun, nofun⟩

theorem Begins.admits_breakLine (begins : state.Begins limit)
    (order : glyph.isBlank = true → state.word = [])
    (place : widthOf (state.breakLine limit).current ≤ limit) :
    (state.breakLine limit).Admits limit glyph :=
  ⟨begins.breakLine, order, .inr place, nofun, nofun⟩

/-- There is room for the glyph because the broken line was filled as far as possible. -/
theorem Fits.place_breakLine (fits : state.Fits limit)
    (unsettled : state.mustSettle limit glyph = false) :
    widthOf (state.breakLine limit).current ≤ limit := by
  have shorter := widthOf_le_of_suffix
    (dropBlanks_suffix (limit - widthOf state.line) state.blanks)
  have kept := @widthOf_dropBlanks (limit - widthOf state.line) _ _ fits.narrow
  have width := widthOf_current state
  have left : widthOf (state.breakLine limit).current =
      widthOf (dropBlanks (limit - widthOf state.line) state.blanks) + widthOf state.word := by
    simp only [Wrapping.breakLine, Wrapping.current, widthOf_append, List.nil_append]
  simp only [mustSettle, Bool.or_eq_false_iff, Bool.and_eq_false_iff,
    List.isEmpty_eq_false_iff, decide_eq_false_iff_not, Nat.not_lt] at unsettled
  rcases unsettled.2 with filled | short
  · have room := fits.room filled
    have started := fits.started filled
    rcases kept with none | kept
    · rw [none, widthOf] at left
      omega
    · omega
  · omega

/-! ### One step -/

/-- The line is broken if that has to be, and takes the glyph unless it was the blank to break at.
-/
theorem fits_breakOrPush (plain : glyph.IsPlain) (fitting : glyph.cells ≤ limit)
    (fits : (state.breakLine limit).Fits limit)
    (admits : (state.breakLine limit).Admits limit glyph)
    (goesOn : state.mustBreak limit glyph = false → state.Admits limit glyph) :
    Fits limit (if state.mustBreak limit glyph then
      if glyph.isBlank && (state.breakLine limit).blanks.isEmpty then state.breakLine limit
      else (state.breakLine limit).push glyph
    else state.push glyph) := by
  cases breaks : state.mustBreak limit glyph with
  | false => exact (goesOn breaks).push plain fitting
  | true =>
    simp only [↓reduceIte]
    split
    · exact fits
    · exact admits.push plain fitting

theorem Fits.read (fits : state.Fits limit) (plain : glyph.IsPlain) :
    (state.read limit glyph).Fits limit := by
  unfold Wrapping.read
  split
  · exact fits
  · next narrow =>
    have fitting : glyph.cells ≤ limit := Nat.not_lt.mp narrow
    have begins := fits.toBegins
    cases settles : state.mustSettle limit glyph with
    | true =>
      exact fits_breakOrPush plain fitting (begins.settleWord.fits_breakLine fun _ => rfl)
        (begins.settleWord.admits_breakLine (fun _ => rfl) (Nat.zero_le _))
        (begins.admits_settleWord plain fitting settles)
    | false =>
      exact fits_breakOrPush plain fitting (begins.fits_breakLine fits.resting)
        (begins.admits_breakLine (fits.order settles) (fits.place_breakLine settles))
        (fits.admits plain fitting settles)

theorem Fits.readAll (fits : state.Fits limit) {line : List Glyph}
    (plain : ∀ glyph ∈ line, glyph.IsPlain) : (line.foldl (Wrapping.read limit) state).Fits limit := by
  induction line generalizing state with
  | nil => exact fits
  | cons glyph rest inductionHypothesis =>
    exact inductionHypothesis (fits.read (plain glyph List.mem_cons_self))
      fun other member => plain other (List.mem_cons_of_mem _ member)

theorem Fits.lines (fits : state.Fits limit) :
    ∀ line ∈ state.lines, BeginsBefore (limit + 1) 0 line := by
  intro line member
  have orBlank {all : List (List Glyph)} (inLines : line ∈ if all.isEmpty then [[]] else all) :
      line = [] ∨ line ∈ all := by
    split at inLines
    · exact .inl (List.mem_singleton.mp inLines)
    · exact .inr inLines
  rcases orBlank member with rfl | member
  · trivial
  · simp only [List.mem_append, List.mem_reverse, List.mem_ite_nil_right,
      List.mem_ite_nil_left, List.mem_singleton] at member
    rcases member with (finished | ⟨-, rfl⟩) | ⟨-, rfl⟩
    · exact fits.finished line finished
    · trivial
    · exact fits.current

end Wrapping

/-! ### Whole texts -/

theorem beginsBefore_wrap {limit : Nat} {line : List Glyph}
    (plain : ∀ glyph ∈ line, glyph.IsPlain) :
    ∀ wrapped ∈ wrap limit line, BeginsBefore (limit + 1) 0 wrapped :=
  ((Wrapping.fits_start limit).readAll plain).lines

/-- Every glyph of the text is plain. -/
def IsPlainText (text : String) : Prop :=
  ∀ line ∈ Text.linesOf text.toList, ∀ glyph ∈ glyphs none line, glyph.IsPlain

instance (text : String) : Decidable (IsPlainText text) := by
  unfold IsPlainText
  infer_instance

/-- A plain text that is wrapped into what a border leaves of an area stays inside the area. -/
theorem bounds_wrappedTextStrokes (area : Area) {text : String} (plain : IsPlainText text) :
    area.Bounds (wrappedTextStrokes area.inner text) := by
  unfold wrappedTextStrokes
  by_cases empty : area.inner.isEmpty = true
  · rw [linesStrokes, if_pos empty]
    exact Area.bounds_nil area
  · have size : 0 < area.width - 2 ∧ 0 < area.height - 2 :=
      size_pos (Bool.eq_false_iff.mpr empty)
    have begins : ∀ wrapped ∈ (Text.linesOf text.toList).flatMap
        fun line => wrap area.inner.width (glyphs none line),
        BeginsBefore (area.inner.width + 1) 0 wrapped := by
      intro wrapped member
      obtain ⟨line, ofText, member⟩ := List.mem_flatMap.mp member
      exact beginsBefore_wrap (plain line ofText) wrapped member
    exact bounds_linesStrokes begins (Nat.le_succ _) (by dsimp only [Area.inner]; omega)
      (Nat.le_succ _) (by dsimp only [Area.inner]; omega)

/-- Behind a word and a blank that take no cell, a word grows wider than the line before the line is
broken. -/
example : ¬Area.Bounds { column := 0, row := 0, width := 6, height := 4 }
    (wrappedTextStrokes { column := 1, row := 1, width := 4, height := 2 }
      "\u2060\u200Baaa漢b") := by
  unfold Area.Bounds
  decide +kernel

end OperatorDesk.Screen
