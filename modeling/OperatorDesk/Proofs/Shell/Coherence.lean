/-
This file states what holds of a shell whatever its owner does to it. The root view lies at the
bottom of a stack of at most three views, views and overlays have names, the layout is that of the
width, no two questions in the queue have the same id, and what has been entered belongs to a queued
question that allows it.
-/

import Mathlib.Data.List.Nodup
import OperatorDesk.Shell.Run
import OperatorDesk.Proofs.Shell.Composing
import OperatorDesk.Proofs.Shell.Edits
import OperatorDesk.Proofs.Shell.Showing

namespace OperatorDesk.Shell

variable {Picture : Type} {root : String} {shell later : Shell Picture}

/-- The parts of a shell agree with each other. -/
structure Coherent (root : String) (shell : Shell Picture) : Prop where
  depth : 1 ≤ shell.viewStack.length ∧ shell.viewStack.length ≤ 3
  bottom : shell.viewStack.head? = some root
  views : ∀ view ∈ shell.viewStack.tail, view ≠ ""
  overlays : ∀ overlay ∈ shell.overlays, overlay.kind ≠ ""
  layout : shell.layout = Layout.ofWidth shell.width shell.compactBelow
  threshold : 1 ≤ shell.compactBelow
  distinct : (shell.questions.map Question.id).Nodup
  /-- What has been entered belongs to a queued question, and the question allows it. -/
  entered : ∀ composer ∈ shell.composer, ∃ question ∈ shell.questions,
    question.id = composer.questionId ∧ composer.Fits question

theorem coherent_start (root : String) : Coherent root (start root : Shell Picture) where
  depth := ⟨Nat.le_refl 1, Nat.le_add_right 1 2⟩
  bottom := rfl
  views := fun _ member => absurd member List.not_mem_nil
  overlays := fun _ member => absurd member List.not_mem_nil
  layout := rfl
  threshold := Nat.le_add_left 1 119
  distinct := List.nodup_nil
  entered := nofun

namespace Coherent

/-! ### Views and overlays -/

theorem withCompactBelow (coherent : Coherent root shell) (compactBelow : Nat) :
    Coherent root (shell.withCompactBelow compactBelow) :=
  { coherent with layout := rfl, threshold := Nat.le_max_right compactBelow 1 }

theorem register (coherent : Coherent root shell) (id : String) (view : View Picture) :
    Coherent root (shell.register id view) := by
  unfold Shell.register
  split
  · exact coherent
  · exact { coherent with }

/-- The views above the root change to named ones, and there are at most two of them. -/
theorem withOpened (coherent : Coherent root shell) {opened : List String}
    (few : opened.length ≤ 2) (named : ∀ view ∈ opened, view ≠ "") :
    Coherent root { shell with opened } := by
  have size : ({ shell with opened } : Shell Picture).viewStack.length = opened.length + 1 :=
    congrArg (· + 1) List.length_reverse
  refine { coherent with depth := ?_, bottom := coherent.bottom, views := fun view member => ?_ }
  · rw [size]
    exact ⟨Nat.le_add_left 1 _, Nat.succ_le_succ few⟩
  · exact named view (List.mem_reverse.mp member)

theorem opened_length (coherent : Coherent root shell) : shell.opened.length ≤ 2 := by
  have size : shell.viewStack.length = shell.opened.length + 1 :=
    congrArg (· + 1) List.length_reverse
  exact Nat.le_of_succ_le_succ (Nat.le_trans (Nat.le_of_eq size.symm) coherent.depth.2)

theorem opened_named (coherent : Coherent root shell) : ∀ view ∈ shell.opened, view ≠ "" :=
  fun view member => coherent.views view (List.mem_reverse.mpr member)

theorem pushView (coherent : Coherent root shell) (id : String) :
    Coherent root (shell.pushView id) := by
  unfold Shell.pushView
  split
  · exact coherent
  next hasName =>
  have isNamed : id ≠ "" := mt String.isEmpty_iff.mpr hasName
  split
  · next room =>
    exact coherent.withOpened (Nat.le_of_succ_le_succ room)
      (List.forall_mem_cons.mpr ⟨isNamed, coherent.opened_named⟩)
  · have fewer : shell.opened.tail.length ≤ 1 := by
      rw [List.length_tail]
      exact Nat.sub_le_of_le_add coherent.opened_length
    exact coherent.withOpened (Nat.succ_le_succ fewer)
      (List.forall_mem_cons.mpr
        ⟨isNamed, fun view member => coherent.opened_named view (List.mem_of_mem_tail member)⟩)

theorem popView (coherent : Coherent root shell) : Coherent root shell.popView.1 := by
  refine coherent.withOpened ?_ fun view member =>
    coherent.opened_named view (List.mem_of_mem_tail member)
  rw [List.length_tail]
  exact Nat.le_trans (Nat.sub_le _ 1) coherent.opened_length

theorem pushOverlay (coherent : Coherent root shell) (overlay : Overlay) :
    Coherent root (shell.pushOverlay overlay) := by
  unfold Shell.pushOverlay
  split
  · exact coherent
  · next hasKind =>
    exact { coherent with
      overlays := List.forall_mem_cons.mpr ⟨mt String.isEmpty_iff.mpr hasKind, coherent.overlays⟩ }

theorem withFewerOverlays (coherent : Coherent root shell) {kept : List Overlay}
    (below : kept <:+ shell.overlays) : Coherent root { shell with overlays := kept } :=
  { coherent with overlays := fun overlay member => coherent.overlays overlay (below.subset member) }

theorem cycleFocus (coherent : Coherent root shell) (forward : Bool) :
    Coherent root (shell.cycleFocus forward) := by
  unfold Shell.cycleFocus
  simp only
  split
  · exact coherent
  · exact { coherent with }

/-! ### Questions -/

/-- What has been entered for a queued question is what the question allows. -/
theorem fits (coherent : Coherent root shell) {question : Question}
    (member : question ∈ shell.questions) : (shell.composerFor question.id).Fits question := by
  unfold composerFor
  split
  · next composer isComposer =>
    split
    · next own =>
      obtain ⟨other, isQueued, sameId, fits⟩ := coherent.entered composer isComposer
      have same : other = question :=
        List.inj_on_of_nodup_map coherent.distinct isQueued member (sameId.trans own)
      exact same ▸ fits
    · exact Composer.fits_fresh _ question
  · exact Composer.fits_fresh _ question

/-- The composer turns to a queued question. -/
theorem withComposer (coherent : Coherent root shell) {question : Question}
    (member : question ∈ shell.questions) {composer : Composer}
    (own : composer.questionId = question.id) (fits : composer.Fits question) :
    Coherent root { shell with composer := some composer } := by
  refine { coherent with entered := ?_ }
  rintro _ ⟨⟩
  exact ⟨question, member, own.symm, fits⟩

theorem openQuestion (coherent : Coherent root shell) {question : Question}
    (member : question ∈ shell.questions) : Coherent root (shell.openQuestion question.id) := by
  unfold Shell.openQuestion
  split
  · exact coherent
  · exact (coherent.withComposer member (questionId_composerFor shell question.id)
      (coherent.fits member)).pushOverlay _

theorem removeQuestion (coherent : Coherent root shell) (id : String) :
    Coherent root (shell.removeQuestion id) := by
  refine { coherent with
    distinct := coherent.distinct.sublist (List.filter_sublist.map _)
    entered := ?_ }
  intro composer isComposer
  obtain ⟨wasComposer, remains⟩ := Option.filter_eq_some_iff.mp isComposer
  obtain ⟨question, member, own, fits⟩ := coherent.entered composer wasComposer
  exact ⟨question, List.mem_filter.mpr ⟨member, own ▸ remains⟩, own, fits⟩

theorem enqueue (coherent : Coherent root shell) {question : Question}
    (isNew : shell.isQueued question.id = false) : Coherent root (shell.enqueue question) := by
  have joins : entering shell.questions question = shell.questions ++ [question] :=
    if_neg (Bool.eq_false_iff.mp isNew)
  have distinct := nodup_entering coherent.distinct question
  rw [joins] at distinct
  refine { coherent with distinct, entered := fun composer isComposer => ?_ }
  obtain ⟨other, member, rest⟩ := coherent.entered composer isComposer
  exact ⟨other, List.mem_append_left _ member, rest⟩

theorem blame (coherent : Coherent root shell) {question : Question}
    (member : question ∈ shell.questions) (reason : String) :
    Coherent root (shell.blame question.id reason) := by
  let blamed : Composer := { shell.composerFor question.id with error := some reason }
  have own : blamed.questionId = question.id := questionId_composerFor shell question.id
  have fits : blamed.Fits question := { coherent.fits member with }
  exact { coherent.withComposer member own fits with }

/-! ### Events -/

theorem shift (shift : Shift shell later) (coherent : Coherent root shell) :
    Coherent root later := by
  cases shift with
  | visits id => exact coherent.pushView id
  | leaves => exact coherent.popView
  | focuses view index => exact { coherent with }
  | measures width height => exact { coherent with layout := rfl }
  | tells text => exact { coherent with }
  | quits => exact { coherent with }
  | lifts kept below => exact coherent.withFewerOverlays below
  | lays overlay own apart => exact coherent.pushOverlay overlay
  | shows front rest next => exact coherent.openQuestion (next ▸ List.mem_cons_self)

theorem edit (edit : Edit shell later) (coherent : Coherent root shell) : Coherent root later := by
  cases edit with
  | shifts later shift => exact coherent.shift shift
  | composes question onTop key =>
    have member := mem_of_topQuestion? onTop
    refine coherent.withComposer member ?_ ((coherent.fits member).press key)
    rw [Composer.questionId_press, questionId_composerFor]
  | removes id => exact coherent.removeQuestion id

theorem update (coherent : Coherent root shell) (event : Event) :
    Coherent root (shell.update event).1 := by
  have heeds := heeds_update shell event
  generalize (shell.update event).1 = later at heeds
  cases heeds with
  | edits _ _ edits => exact edits.keep Coherent.edit coherent
  | asked question isNew => exact (shifts_surface _).edits.keep Coherent.edit (coherent.enqueue isNew)
  | rejected id reason isQueued =>
    obtain ⟨question, member, isId⟩ := List.any_eq_true.mp isQueued
    obtain rfl := beq_iff_eq.mp isId
    exact (coherent.blame member reason).openQuestion member

theorem perform (coherent : Coherent root shell) (operation : Operation Picture) :
    Coherent root (shell.perform operation) := by
  cases operation with
  | setCompactBelow compactBelow => exact coherent.withCompactBelow compactBelow
  | register id view => exact coherent.register id view
  | pushView id => exact coherent.pushView id
  | popView => exact coherent.popView
  | pushOverlay overlay => exact coherent.pushOverlay overlay
  | popOverlay => exact coherent.withFewerOverlays (List.tail_suffix _)
  | cycleFocus forward => exact coherent.cycleFocus forward
  | resize width height => exact { coherent with layout := rfl }
  | setStatus status => exact { coherent with }
  | update event => exact coherent.update event

theorem run (coherent : Coherent root shell) (operations : List (Operation Picture)) :
    Coherent root (shell.run operations) := by
  induction operations generalizing shell with
  | nil => exact coherent
  | cons operation rest inductionHypothesis => exact inductionHypothesis (coherent.perform operation)

end Coherent

/-- Whatever is done to a shell, in any order, its parts agree. -/
theorem coherent_run (root : String) (operations : List (Operation Picture)) :
    Coherent root ((start root).run operations) :=
  (coherent_start root).run operations

end OperatorDesk.Shell
