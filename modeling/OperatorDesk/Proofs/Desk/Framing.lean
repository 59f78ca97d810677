/-
This file says that overlays draw only inside their frames. Every overlay has an area in the middle
of the screen, with free columns and rows around it, and all its strokes are made there. Outside the
areas the screen shows what it shows without overlays, and no stroke of the desk is made outside the
screen. What is assumed of the writer is that it keeps the texts of the desk inside their frames;
the wrapping writer does so with every plain text.
-/

import OperatorDesk.Desk.Drawing
import OperatorDesk.Proofs.Screen.Wrapping

namespace OperatorDesk

variable {Picture : Type}

/-! ### Shells without overlays -/

/-- The shell without its overlays. -/
def Shell.withoutOverlays (shell : Shell Picture) : Shell Picture := { shell with overlays := [] }

/-- The views of the dashboard do not look at overlays. -/
theorem Dashboard.draw_withoutOverlays (gate : Gate) (board : Dashboard) (shell : Shell Picture) :
    board.draw gate shell.withoutOverlays = board.draw gate shell := by
  cases board <;> rfl

theorem Shell.renderView_withoutOverlays {draw : Picture → Shell Picture → String}
    {shell : Shell Picture}
    (indifferent : ∀ picture, draw picture shell.withoutOverlays = draw picture shell) :
    shell.withoutOverlays.renderView draw = shell.renderView draw := by
  have sameView : shell.withoutOverlays.views shell.withoutOverlays.currentView =
      shell.views shell.currentView := rfl
  unfold Shell.renderView
  rw [sameView]
  cases (shell.views shell.currentView).bind View.picture with
  | some picture => exact indifferent picture
  | none => rfl

namespace Desk

open Screen

variable {write : TextWriter} {shell : Shell Picture} {clock viewText : String}
  {screen area : Area} {overlay : Overlay} {width height : Nat}

/-! ### The places of overlays -/

/-- Where an overlay lies on a screen of some size. -/
structure Framed (width height : Nat) (overlay : Overlay) (area : Area) : Prop where
  inside : area.column + area.width ≤ width ∧ area.row + area.height ≤ height
  quitSize : overlay.kind = Overlay.confirmQuitKind → area.width ≤ 44 ∧ area.height ≤ 9
  questionSize : overlay.kind = Overlay.questionKind → area.width ≤ 70 ∧ area.height ≤ 20
  otherSize : overlay.kind ≠ Overlay.confirmQuitKind → overlay.kind ≠ Overlay.questionKind →
    area.width ≤ 60 ∧ area.height ≤ 28
  /-- Left and right are equally many free columns, or one more at the right. -/
  centredColumns : 2 * area.column + area.width ≤ width ∧ width ≤ 2 * area.column + area.width + 1
  /-- The same above and below. -/
  centredRows : 2 * area.row + area.height ≤ height ∧ height ≤ 2 * area.row + area.height + 1
  margin : area.isEmpty = false →
    2 ≤ area.column ∧ area.column + area.width + 2 ≤ width ∧
      1 ≤ area.row ∧ area.row + area.height + 1 ≤ height
  /-- The differences that center the area are exact. -/
  exact : width - area.width + area.width = width ∧ height - area.height + area.height = height

theorem framed_overlayArea (width height : Nat) (overlay : Overlay) :
    Framed width height overlay (overlayArea (Screen.blank width height).area overlay) where
  inside := by
    dsimp only [overlayArea, Screen.area, Screen.blank]
    omega
  quitSize quit := by
    have most : overlaySize overlay = (44, 9) := if_pos quit
    dsimp only [overlayArea]
    rw [most]
    exact ⟨Nat.min_le_left _ _, Nat.min_le_left _ _⟩
  questionSize question := by
    have most : overlaySize overlay = (70, 20) := by
      have noQuit : overlay.kind ≠ Overlay.confirmQuitKind := question ▸ by decide
      rw [overlaySize, if_neg noQuit, if_pos question]
    dsimp only [overlayArea]
    rw [most]
    exact ⟨Nat.min_le_left _ _, Nat.min_le_left _ _⟩
  otherSize noQuit noQuestion := by
    have most : overlaySize overlay = (60, 28) := by
      rw [overlaySize, if_neg noQuit, if_neg noQuestion]
    dsimp only [overlayArea]
    rw [most]
    exact ⟨Nat.min_le_left _ _, Nat.min_le_left _ _⟩
  centredColumns := by
    dsimp only [overlayArea, Screen.area, Screen.blank]
    omega
  centredRows := by
    dsimp only [overlayArea, Screen.area, Screen.blank]
    omega
  margin filled := by
    have size := size_pos filled
    dsimp only [overlayArea, Screen.area, Screen.blank] at size ⊢
    omega
  exact := by
    dsimp only [overlayArea, Screen.area, Screen.blank]
    omega

/-- A cell of an overlay's area is a cell of the screen. -/
theorem Framed.contains (framed : Framed width height overlay area) {column row : Nat}
    (contains : area.Contains column row) :
    (Screen.blank width height).area.Contains column row := by
  have inside := framed.inside
  unfold Area.Contains at *
  dsimp only [Screen.area, Screen.blank]
  omega

/-! ### What is drawn where -/

/-- Written into the room that a border leaves of an area, the text stays inside the area. -/
def Clips (write : TextWriter) (area : Area) (text : String) : Prop :=
  area.Bounds (write area.inner text)

/-- The texts of the view and of all overlays stay inside their areas. -/
structure ClipsAll (write : TextWriter) (shell : Shell Picture) (viewText : String)
    (screen : Area) : Prop where
  view : Clips write (contentArea screen) viewText
  bodies : ∀ overlay ∈ shell.overlays,
    Clips write (overlayArea screen overlay) (shell.overlayBody overlay)

theorem bounds_headerStrokes (shell : Shell Picture) (clock : String) (area : Area) :
    area.Bounds (headerStrokes shell clock area) :=
  (bounds_borderStrokes area none).append
    ((bounds_cutLineStrokes area.inner _).within fun _ _ => Area.contains_of_inner)

theorem bounds_contentStrokes (clips : Clips write area viewText) :
    area.Bounds (contentStrokes write shell viewText area) :=
  ((bounds_borderStrokes area none).append (bounds_titleStrokes area _)).append clips

theorem bounds_footerStrokes (shell : Shell Picture) (area : Area) :
    area.Bounds (footerStrokes shell area) :=
  ((Area.bounds_fill area _).append (bounds_topEdgeStrokes area)).append
    ((bounds_cutLineStrokes area.belowFirstRow _).within
      fun _ _ => Area.contains_of_belowFirstRow)

theorem bounds_overlayStrokes
    (clips : Clips write (overlayArea screen overlay) (shell.overlayBody overlay)) :
    (overlayArea screen overlay).Bounds (overlayStrokes write shell screen overlay) :=
  ((((Area.bounds_fill _ _).append (Area.bounds_fill _ _)).append
    (bounds_borderStrokes _ _)).append (bounds_titleStrokes _ _)).append clips

/-- Header, content and footer divide the rows of the screen among themselves. -/
theorem bounds_baseStrokes (clips : Clips write (contentArea screen) viewText) :
    screen.Bounds (baseStrokes write shell clock viewText screen) := by
  have header := bounds_headerStrokes shell clock (headerArea screen)
  have content := @bounds_contentStrokes _ _ shell _ _ clips
  have footer := bounds_footerStrokes shell (footerArea screen)
  refine ((header.within ?_).append (content.within ?_)).append (footer.within ?_) <;>
  · intro column row
    simp only [Area.Contains, headerArea, contentArea, footerArea, headerRows, footerRows,
      contentRows]
    omega

/-- The cell belongs to the area of an overlay. -/
def Covered (shell : Shell Picture) (screen : Area) (column row : Nat) : Prop :=
  ∃ overlay ∈ shell.overlays, (overlayArea screen overlay).Contains column row

theorem covered_of_mem_overlaysStrokes (clips : ClipsAll write shell viewText screen)
    {stroke : Stroke} (member : stroke ∈ overlaysStrokes write shell screen) :
    Covered shell screen stroke.column stroke.row := by
  obtain ⟨overlay, onStack, member⟩ := List.mem_flatMap.mp member
  have onStack := List.mem_reverse.mp onStack
  exact ⟨overlay, onStack, bounds_overlayStrokes (clips.bodies overlay onStack) stroke member⟩

/-! ### Whole pictures -/

@[simp]
theorem width_pictureWith (write : TextWriter) (shell : Shell Picture)
    (clock viewText : String) (width height : Nat) :
    (pictureWith write shell clock viewText width height).width = width := by
  simp only [pictureWith, width_drawAll]
  rfl

/-- The picture without overlays is what lies below them. -/
theorem pictureWith_withoutOverlays (write : TextWriter) (shell : Shell Picture)
    (clock viewText : String) (width height : Nat) :
    pictureWith write shell.withoutOverlays clock viewText width height =
      (Screen.blank width height).drawAll
        (baseStrokes write shell clock viewText (Screen.blank width height).area) := rfl

theorem changesOnly_pictureWith
    (clips : ClipsAll write shell viewText (Screen.blank width height).area) :
    ChangesOnly (Covered shell (Screen.blank width height).area)
      (pictureWith write shell.withoutOverlays clock viewText width height)
      (pictureWith write shell clock viewText width height) := by
  rw [pictureWith_withoutOverlays]
  exact changesOnly_drawAll _ fun _ member => covered_of_mem_overlaysStrokes clips member

/-- Overlays draw only inside their frames. Each frame lies in the middle of the screen, no larger
than its kind allows and, unless it is empty, with two free columns at each side and a free row
above and below. With the overlays the screen differs from the one without them only inside the
frames, and all strokes of the desk are made on the screen. The views of the dashboard show the same
text with and without overlays, and the wrapping writer keeps every plain text inside its frame. -/
theorem overlays_stay_framed (write : TextWriter) (shell : Shell Picture)
    (clock viewText : String) (width height : Nat)
    (clips : ClipsAll write shell viewText (Screen.blank width height).area) :
    (∀ overlay ∈ shell.overlays,
      Framed width height overlay (overlayArea (Screen.blank width height).area overlay)) ∧
    ChangesOnly (Covered shell (Screen.blank width height).area)
      (pictureWith write shell.withoutOverlays clock viewText width height)
      (pictureWith write shell clock viewText width height) ∧
    (∀ stroke ∈ baseStrokes write shell clock viewText (Screen.blank width height).area ++
        overlaysStrokes write shell (Screen.blank width height).area,
      stroke.column < width ∧ stroke.row < height) ∧
    (∀ gate (boards : Shell Dashboard),
      boards.withoutOverlays.renderView (Dashboard.draw gate) =
        boards.renderView (Dashboard.draw gate)) ∧
    ∀ area text, IsPlainText text → Clips wrappedTextStrokes area text := by
  refine ⟨fun overlay _ => framed_overlayArea width height overlay,
    changesOnly_pictureWith clips, fun stroke member => ?_,
    fun gate boards => Shell.renderView_withoutOverlays fun board =>
      Dashboard.draw_withoutOverlays gate board boards,
    fun area _ plain => bounds_wrappedTextStrokes area plain⟩
  have onScreen : (Screen.blank width height).area.Contains stroke.column stroke.row := by
    rcases List.mem_append.mp member with base | ofOverlays
    · exact bounds_baseStrokes clips.view stroke base
    · obtain ⟨overlay, -, covered⟩ := covered_of_mem_overlaysStrokes clips ofOverlays
      exact (framed_overlayArea width height overlay).contains covered
  obtain ⟨-, right, -, bottom⟩ := onScreen
  dsimp only [Screen.area, Screen.blank] at right bottom
  omega

/-- The question whether to quit, above a note. -/
def stacked : Shell Unit :=
  ((Shell.start "fleet").pushOverlay { kind := "note", payload := some "Stores move on Friday" })
    |>.pushOverlay .confirmQuit

/-- On a small screen the overlays get all of it but the margin, and the margin stays as it is. -/
theorem overlays_stay_framed_stacked :
    ClipsAll wrappedTextStrokes stacked "[fleet]" (Screen.blank 20 8).area ∧
      overlayArea (Screen.blank 20 8).area .confirmQuit =
        { column := 2, row := 1, width := 16, height := 6 } ∧
      Framed 20 8 .confirmQuit (overlayArea (Screen.blank 20 8).area .confirmQuit) ∧
      ∀ row, (pictureWith wrappedTextStrokes stacked "12:00:00" "[fleet]" 20 8).cell 1 row =
        (pictureWith wrappedTextStrokes stacked.withoutOverlays "12:00:00" "[fleet]" 20 8).cell
          1 row := by
  have plainView : IsPlainText "[fleet]" := by decide +kernel
  have plainNote : IsPlainText "Stores move on Friday" := by decide +kernel
  have plainQuit : IsPlainText stacked.quitBody := by decide +kernel
  have clips : ClipsAll wrappedTextStrokes stacked "[fleet]" (Screen.blank 20 8).area :=
    ⟨bounds_wrappedTextStrokes _ plainView, List.forall_mem_cons.mpr
      ⟨bounds_wrappedTextStrokes _ plainQuit, List.forall_mem_singleton.mpr
        (bounds_wrappedTextStrokes _ plainNote)⟩⟩
  have framed := overlays_stay_framed wrappedTextStrokes stacked "12:00:00" "[fleet]" 20 8 clips
  refine ⟨clips, by decide, framed.1 .confirmQuit List.mem_cons_self,
    fun row => framed.2.1.cell 1 row (by rw [width_pictureWith]; decide) ?_⟩
  have left : ∀ overlay ∈ stacked.overlays,
      1 < (overlayArea (Screen.blank 20 8).area overlay).column := by decide
  rintro ⟨overlay, onStack, contains⟩
  exact Nat.not_le_of_lt (left overlay onStack) contains.1

end Desk

end OperatorDesk
