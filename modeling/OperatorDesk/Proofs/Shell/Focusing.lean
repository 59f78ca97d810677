/-
This file says that the focus goes around the panels of the current view. The index that is kept for
a view can lie past its last panel, because the view may have been registered again with fewer
panels; whoever looks it up takes the last panel instead, and so does whoever moves the focus. So a
sequence of turns moves the focus by the turns forward less the turns back, counted around the
panels, and changes nothing but the focus of the current view.
-/

import OperatorDesk.Shell.Run

namespace OperatorDesk.Shell

variable {Picture : Type} {shell : Shell Picture} {view : String}

/-! ### The focused panel -/

/-- The index of the focused panel among the panels of a view. -/
def focusedIndex (shell : Shell Picture) (view : String) : Nat :=
  min (shell.focus view) ((shell.panelsOf view).length - 1)

theorem focusedPanel?_eq (shell : Shell Picture) (view : String) :
    shell.focusedPanel? view = (shell.panelsOf view)[shell.focusedIndex view]? :=
  rfl

theorem focusedIndex_lt (hasPanels : shell.panelsOf view ≠ []) :
    shell.focusedIndex view < (shell.panelsOf view).length := by
  have positive := List.length_pos_iff.mpr hasPanels
  unfold focusedIndex
  omega

/-- Where there are panels, one of them has the focus. -/
theorem exists_focusedPanel? (hasPanels : shell.panelsOf view ≠ []) :
    ∃ panel ∈ shell.panelsOf view, shell.focusedPanel? view = some panel := by
  have inside := focusedIndex_lt hasPanels
  refine ⟨_, List.getElem_mem inside, ?_⟩
  rw [focusedPanel?_eq, List.getElem?_eq_getElem inside]

/-! ### Setting the focus -/

theorem focus_focusOn_other {other : String} (different : other ≠ view) (index : Nat) :
    (shell.focusOn view index).focus other = shell.focus other :=
  if_neg different

theorem focusOn_focusOn (shell : Shell Picture) (view : String) (first second : Nat) :
    (shell.focusOn view first).focusOn view second = shell.focusOn view second := by
  have same : (fun name => if name = view then second
      else (shell.focusOn view first).focus name) =
      fun name => if name = view then second else shell.focus name := by
    funext name
    split
    · rfl
    · next different => exact focus_focusOn_other different first
  unfold focusOn at same ⊢
  rw [same]

theorem focusOn_focus (shell : Shell Picture) (view : String) :
    shell.focusOn view (shell.focus view) = shell := by
  have same : (fun name => if name = view then shell.focus view else shell.focus name) =
      shell.focus := by
    funext name
    split
    · next isView => rw [isView]
    · rfl
  unfold focusOn
  rw [same]

theorem focusedIndex_focusOn {index : Nat} (inside : index < (shell.panelsOf view).length) :
    (shell.focusOn view index).focusedIndex view = index := by
  have stored : (shell.focusOn view index).focus view = index := if_pos rfl
  rw [focusedIndex, stored]
  exact Nat.min_eq_left (Nat.le_sub_one_of_lt inside)

theorem focusedPanel?_focusOn {index : Nat} (inside : index < (shell.panelsOf view).length) :
    (shell.focusOn view index).focusedPanel? view = (shell.panelsOf view)[index]? := by
  rw [focusedPanel?_eq, focusedIndex_focusOn inside]
  rfl

/-! ### One turn -/

/-- How far a turn moves the focus. -/
def way (forward : Bool) : Int := if forward then 1 else -1

/-- The index that lies so far from another around the panels. -/
def around (count index : Nat) (distance : Int) : Nat := ((index + distance) % count).toNat

theorem around_lt {count : Nat} (positive : 0 < count) (index : Nat) (distance : Int) :
    around count index distance < count := by
  have upper := Int.emod_lt_of_pos (index + distance) (Int.natCast_pos.mpr positive)
  have lower := Int.emod_nonneg (index + distance) (Int.natCast_ne_zero.mpr (Nat.ne_of_gt positive))
  unfold around
  omega

theorem around_around {count : Nat} (positive : 0 < count) (index : Nat) (first second : Int) :
    around count (around count index first) second = around count index (first + second) := by
  have lower := Int.emod_nonneg (index + first) (Int.natCast_ne_zero.mpr (Nat.ne_of_gt positive))
  unfold around
  rw [Int.toNat_of_nonneg lower, Int.emod_add_emod, Int.add_assoc]

/-- A way around all the panels leads back. -/
theorem around_of_dvd {count index : Nat} (inside : index < count) {distance : Int}
    (rounds : (count : Int) ∣ distance) : around count index distance = index := by
  obtain ⟨times, rfl⟩ := rounds
  unfold around
  rw [Int.add_mul_emod_self_left, Int.emod_eq_of_lt (Int.natCast_nonneg index) (by omega)]
  exact Int.toNat_natCast index

theorem around_zero {count index : Nat} (inside : index < count) :
    around count index 0 = index :=
  around_of_dvd inside (Int.dvd_zero _)

theorem around_forward {count : Nat} (index : Nat) :
    around count index (way true) = (index + 1) % count := by
  show ((index + 1 : Int) % count).toNat = _
  exact congrArg Int.toNat (Int.natCast_emod (index + 1) count).symm

theorem around_backward {count : Nat} (positive : 0 < count) (index : Nat) :
    around count index (way false) = (index + count - 1) % count := by
  have shifted : (index + -1 : Int) + count = (index + count - 1 : Nat) := by omega
  show ((index + -1 : Int) % count).toNat = _
  rw [← Int.add_emod_right, shifted, ← Int.natCast_emod, Int.toNat_natCast]

/-- A turn goes on from the panel that has the focus, not from the index that is kept. -/
theorem cycleFocus_eq (hasPanels : shell.panelsOf shell.currentView ≠ []) (forward : Bool) :
    shell.cycleFocus forward = shell.focusOn shell.currentView
      (around (shell.panelsOf shell.currentView).length (shell.focusedIndex shell.currentView)
        (way forward)) := by
  have positive := List.length_pos_iff.mpr hasPanels
  unfold cycleFocus
  rw [if_neg (Nat.ne_of_gt positive)]
  cases forward with
  | true => rw [around_forward]; rfl
  | false => rw [around_backward positive]; rfl

theorem cycleFocus_of_no_panels (none : shell.panelsOf shell.currentView = []) (forward : Bool) :
    shell.cycleFocus forward = shell := by
  unfold cycleFocus
  rw [none]
  rfl

/-! ### Many turns -/

/-- The shell after some turns. -/
def cycleAll (shell : Shell Picture) (turns : List Bool) : Shell Picture :=
  turns.foldl cycleFocus shell

/-- How far the turns move the focus altogether. -/
def distance : List Bool → Int
  | [] => 0
  | forward :: rest => way forward + distance rest

theorem distance_replicate (count : Nat) (forward : Bool) :
    distance (List.replicate count forward) = count * way forward := by
  induction count with
  | zero => exact (Int.zero_mul _).symm
  | succ count inductionHypothesis =>
    rw [List.replicate_succ, distance, inductionHypothesis, Int.natCast_add, Int.add_mul,
      Int.add_comm]
    exact congrArg _ (Int.one_mul _).symm

/-- Turns that start from a panel move the focus around the panels, and do nothing else. -/
theorem cycleAll_focusOn {index : Nat}
    (inside : index < (shell.panelsOf shell.currentView).length) (turns : List Bool) :
    (shell.focusOn shell.currentView index).cycleAll turns = shell.focusOn shell.currentView
      (around (shell.panelsOf shell.currentView).length index (distance turns)) := by
  have positive : 0 < (shell.panelsOf shell.currentView).length := Nat.zero_lt_of_lt inside
  induction turns generalizing index with
  | nil => rw [distance, around_zero inside]; rfl
  | cons forward rest inductionHypothesis =>
    have turned : (shell.focusOn shell.currentView index).cycleFocus forward =
        shell.focusOn shell.currentView
          (around (shell.panelsOf shell.currentView).length index (way forward)) := by
      have hasPanels : shell.panelsOf shell.currentView ≠ [] := List.ne_nil_of_length_pos positive
      have same := @cycleFocus_eq _ (shell.focusOn shell.currentView index) hasPanels forward
      have current : (shell.focusOn shell.currentView index).currentView = shell.currentView := rfl
      rw [same, current, focusOn_focusOn, focusedIndex_focusOn inside]
      rfl
    rw [cycleAll, List.foldl_cons, turned, ← cycleAll,
      inductionHypothesis (around_lt positive index _), around_around positive]
    rfl

/-- What some turns do, wherever the index that is kept may lie. -/
theorem cycleAll_eq (hasPanels : shell.panelsOf shell.currentView ≠ []) {turns : List Bool}
    (moves : turns ≠ []) :
    shell.cycleAll turns = shell.focusOn shell.currentView
      (around (shell.panelsOf shell.currentView).length (shell.focusedIndex shell.currentView)
        (distance turns)) := by
  obtain ⟨forward, rest, rfl⟩ := List.exists_cons_of_ne_nil moves
  have inside := focusedIndex_lt hasPanels
  have positive : 0 < (shell.panelsOf shell.currentView).length := Nat.zero_lt_of_lt inside
  rw [cycleAll, List.foldl_cons, cycleFocus_eq hasPanels, ← cycleAll,
    cycleAll_focusOn (around_lt positive _ _), around_around positive]
  rfl

/-- No turn touches anything but the focus of the current view. -/
theorem exists_cycleAll_eq (hasPanels : shell.panelsOf shell.currentView ≠ []) (turns : List Bool) :
    ∃ index, shell.cycleAll turns = shell.focusOn shell.currentView index := by
  by_cases moves : turns = []
  · rw [moves]
    exact ⟨_, (focusOn_focus shell shell.currentView).symm⟩
  · exact ⟨_, cycleAll_eq hasPanels moves⟩

/-- Where the focus is after some turns. -/
theorem focusedPanel?_cycleAll (hasPanels : shell.panelsOf shell.currentView ≠ [])
    (turns : List Bool) :
    (shell.cycleAll turns).focusedPanel? shell.currentView =
      (shell.panelsOf shell.currentView)[around (shell.panelsOf shell.currentView).length
        (shell.focusedIndex shell.currentView) (distance turns)]? := by
  have inside := focusedIndex_lt hasPanels
  by_cases moves : turns = []
  · rw [moves, distance, around_zero inside]
    rfl
  · rw [cycleAll_eq hasPanels moves, focusedPanel?_focusOn (around_lt (Nat.zero_lt_of_lt inside) _ _)]

/-- Turns that lead around all the panels, or nowhere, leave the focus where it was. -/
theorem focusedPanel?_of_rounds (hasPanels : shell.panelsOf shell.currentView ≠ [])
    {turns : List Bool}
    (rounds : ((shell.panelsOf shell.currentView).length : Int) ∣ distance turns) :
    (shell.cycleAll turns).focusedPanel? shell.currentView =
      shell.focusedPanel? shell.currentView := by
  rw [focusedPanel?_cycleAll hasPanels, around_of_dvd (focusedIndex_lt hasPanels) rounds]
  rfl

/-! ### The rotation -/

/-- The focus goes around the panels of the current view. -/
structure Rotates (shell : Shell Picture) (panels : List String) : Prop where
  focused : ∃ panel ∈ panels, shell.focusedPanel? shell.currentView = some panel
  /-- The panel at this index has the focus. -/
  index : ∃ index < panels.length,
    shell.focusedPanel? shell.currentView = panels[index]? ∧
    (shell.cycleFocus true).focusedPanel? shell.currentView =
      panels[(index + 1) % panels.length]? ∧
    ∃ before < panels.length, (before + 1) % panels.length = index ∧
      (shell.cycleFocus false).focusedPanel? shell.currentView = panels[before]?
  thereAndBack : ((shell.cycleFocus true).cycleFocus false).focusedPanel? shell.currentView =
    shell.focusedPanel? shell.currentView
  backAndThere : ((shell.cycleFocus false).cycleFocus true).focusedPanel? shell.currentView =
    shell.focusedPanel? shell.currentView
  round : ∀ forward,
    (shell.cycleAll (List.replicate panels.length forward)).focusedPanel? shell.currentView =
      shell.focusedPanel? shell.currentView
  /-- Nothing changes but what the focus of the current view is set to. -/
  frame : ∀ turns, ∃ index, shell.cycleAll turns = shell.focusOn shell.currentView index
  others : ∀ turns, ∀ other ≠ shell.currentView,
    (shell.cycleAll turns).focus other = shell.focus other ∧
      (shell.cycleAll turns).focusedPanel? other = shell.focusedPanel? other

theorem before_of_way {count index : Nat} (inside : index < count) :
    (around count index (way false) + 1) % count = index := by
  have positive : 0 < count := Nat.zero_lt_of_lt inside
  rw [← around_forward, around_around positive]
  exact around_zero inside

/-- Whatever was done to a shell, turns move the focus around the panels of the current view; and
where there are none, they do nothing. -/
theorem focus_goes_around (shell : Shell Picture) :
    (shell.panelsOf shell.currentView ≠ [] →
      shell.Rotates (shell.panelsOf shell.currentView)) ∧
    (shell.panelsOf shell.currentView = [] → ∀ forward, shell.cycleFocus forward = shell) := by
  refine ⟨fun hasPanels => ?_, cycleFocus_of_no_panels⟩
  have inside := focusedIndex_lt hasPanels
  have positive : 0 < (shell.panelsOf shell.currentView).length := Nat.zero_lt_of_lt inside
  have turned := fun forward => focusedPanel?_cycleAll hasPanels [forward]
  have rounds := fun turns => @focusedPanel?_of_rounds _ _ hasPanels turns
  refine {
    focused := exists_focusedPanel? hasPanels
    index := ⟨shell.focusedIndex shell.currentView, inside, rfl, ?_, _,
      around_lt positive _ (way false), before_of_way inside, turned false⟩
    thereAndBack := rounds [true, false] (Int.dvd_zero _)
    backAndThere := rounds [false, true] (Int.dvd_zero _)
    round := fun forward => rounds _ ?_
    frame := exists_cycleAll_eq hasPanels
    others := fun turns other different => ?_ }
  · rw [← around_forward]
    exact turned true
  · rw [distance_replicate]
    exact Int.dvd_mul_right _ _
  · obtain ⟨index, moved⟩ := exists_cycleAll_eq hasPanels turns
    have kept : (shell.focusOn shell.currentView index).focus other = shell.focus other :=
      focus_focusOn_other different index
    rw [moved]
    refine ⟨kept, ?_⟩
    rw [focusedPanel?_eq, focusedIndex, kept]
    rfl

/-- The last of three panels has the focus when the view is registered again with two. -/
def narrowing : List (Operation Unit) :=
  [.register "fleet" { View.blank with panels := ["agents", "missions", "activity"] },
    .cycleFocus false,
    .register "fleet" { View.blank with panels := ["agents", "missions"] }]

/-- The focus falls back to the last of the two, and goes on from there. -/
theorem focus_goes_around_narrowing :
    ((start "fleet").run narrowing).focus "fleet" = 2 ∧
      ((start "fleet").run narrowing).focusedPanel? "fleet" = some "missions" ∧
      (((start "fleet").run narrowing).cycleFocus true).focusedPanel? "fleet" = some "agents" ∧
      ((start "fleet").run narrowing).Rotates ["agents", "missions"] :=
  ⟨by decide, by decide, by decide,
    (focus_goes_around ((start "fleet").run narrowing)).1 (by decide)⟩

end OperatorDesk.Shell
