/-
This file says what the stack of overlays looks like while a shell hears events. No question lies on
it twice, and neither the key reference nor the question whether to quit lies directly on its like:
both hold after every edit, since overlays go from the top only and each is laid under a guard. The
overlay on top never shows a question that has left the queue; single edits may break this, but
whatever uncovers an overlay or takes a question away settles the stack afterwards.
-/

import Mathlib.Data.List.Chain
import OperatorDesk.Proofs.Shell.Edits
import OperatorDesk.Proofs.Shell.Showing

namespace OperatorDesk.Shell

variable {Picture : Type} {shell later : Shell Picture}

/-! ### Every edit -/

/-- The two overlays do not show the same question. -/
def Distinct (above below : Overlay) : Prop :=
  above.kind = Overlay.questionKind → below.kind = Overlay.questionKind →
    above.payload ≠ below.payload

/-- The two overlays are not both of this kind. -/
def Differ (kind : String) (above below : Overlay) : Prop :=
  ¬(above.kind = kind ∧ below.kind = kind)

/-- No overlay lies where it would repeat another. -/
structure Unrepeated (overlays : List Overlay) : Prop where
  distinct : overlays.Pairwise Distinct
  help : overlays.IsChain (Differ Overlay.helpKind)
  confirmQuit : overlays.IsChain (Differ Overlay.confirmQuitKind)

theorem unrepeated_nil : Unrepeated [] :=
  ⟨.nil, .nil, .nil⟩

theorem Unrepeated.suffix {overlays kept : List Overlay} (unrepeated : Unrepeated overlays)
    (below : kept <:+ overlays) : Unrepeated kept where
  distinct := unrepeated.distinct.sublist below.sublist
  help := unrepeated.help.suffix below
  confirmQuit := unrepeated.confirmQuit.suffix below

/-- An overlay that is no question can be laid on one of another kind. -/
theorem Unrepeated.cons {overlays : List Overlay} (unrepeated : Unrepeated overlays)
    {overlay : Overlay} (other : overlay.kind ≠ Overlay.questionKind)
    (apart : overlays.head?.any (·.kind == overlay.kind) = false) :
    Unrepeated (overlay :: overlays) := by
  have differ : ∀ kind, ∀ below ∈ overlays.head?, Differ kind overlay below := by
    rintro kind below isBelow ⟨isKind, sameKind⟩
    rw [isBelow, Option.any_some, sameKind, isKind, beq_self_eq_true] at apart
    cases apart
  exact ⟨unrepeated.distinct.cons fun _ _ isQuestion => absurd isQuestion other,
    unrepeated.help.cons (differ _), unrepeated.confirmQuit.cons (differ _)⟩

/-- A question can be laid on top if it is not on the stack. -/
theorem Unrepeated.consQuestion {overlays : List Overlay} (unrepeated : Unrepeated overlays)
    {id : String} (absent : ∀ overlay ∈ overlays,
      overlay.kind = Overlay.questionKind → overlay.payload ≠ some id) :
    Unrepeated (.question id :: overlays) where
  distinct := unrepeated.distinct.cons fun below member _ isQuestion =>
    (absent below member isQuestion).symm
  help := unrepeated.help.cons fun _ _ both =>
    (by decide : Overlay.questionKind ≠ Overlay.helpKind) both.1
  confirmQuit := unrepeated.confirmQuit.cons fun _ _ both =>
    (by decide : Overlay.questionKind ≠ Overlay.confirmQuitKind) both.1

theorem Unrepeated.openQuestion (unrepeated : Unrepeated shell.overlays) (id : String) :
    Unrepeated (shell.openQuestion id).overlays := by
  rw [openQuestion_eq]
  split
  · exact unrepeated
  · next absent =>
    exact unrepeated.consQuestion fun overlay member isQuestion shows =>
      absent (hasOverlayFor_iff.mpr ⟨overlay, member, isQuestion, shows⟩)

theorem Unrepeated.shift (shift : Shift shell later) (unrepeated : Unrepeated shell.overlays) :
    Unrepeated later.overlays := by
  cases shift with
  | visits id => exact (overlays_pushView shell id).symm ▸ unrepeated
  | lifts kept below => exact unrepeated.suffix below
  | lays overlay own apart =>
    unfold pushOverlay
    split
    · exact unrepeated
    · refine unrepeated.cons ?_ apart
      rcases own with rfl | rfl <;> decide
  | shows front rest next => exact unrepeated.openQuestion front.id
  | _ => exact unrepeated

theorem Unrepeated.edit (edit : Edit shell later) (unrepeated : Unrepeated shell.overlays) :
    Unrepeated later.overlays := by
  cases edit with
  | shifts later shift => exact unrepeated.shift shift
  | _ => exact unrepeated

theorem Unrepeated.update (unrepeated : Unrepeated shell.overlays) (event : Event) :
    Unrepeated (shell.update event).1.overlays := by
  have heeds := heeds_update shell event
  generalize (shell.update event).1 = later at heeds
  cases heeds with
  | edits _ _ edits => exact edits.keep Unrepeated.edit unrepeated
  | asked question _ =>
    exact (shifts_surface (shell.enqueue question)).edits.keep Unrepeated.edit unrepeated
  | rejected id reason _ =>
    have blamed : Unrepeated (shell.blame id reason).overlays := unrepeated
    exact blamed.openQuestion id

/-! ### Settling -/

/-- The overlay on top shows no question that has left the queue. -/
def Settled (shell : Shell Picture) : Prop :=
  ∀ top ∈ shell.overlays.head?, shell.isStale top = false

theorem Settled.openQuestion (settled : shell.Settled) {id : String}
    (isQueued : shell.isQueued id = true) : (shell.openQuestion id).Settled := by
  rw [openQuestion_eq]
  split
  · exact settled
  · rintro _ ⟨⟩
    exact isStale_eq_false_iff.mpr fun _ => isLive_question isQueued

theorem Settled.openFront (settled : shell.Settled) : shell.openFront.Settled := by
  unfold Shell.openFront
  split
  · exact settled
  · next next => exact settled.openQuestion (isQueued_front next)

theorem Settled.surface (settled : shell.Settled) : shell.surface.Settled := by
  unfold Shell.surface
  split
  · exact settled
  · exact settled.openFront

/-- Settling leaves no such overlay on top, whatever lay there before. -/
theorem settled_settle (shell : Shell Picture) : shell.settle.Settled := by
  have fresh : ∀ top ∈ (shell.overlays.dropWhile shell.isStale).head?,
      shell.isStale top = false := by
    intro top isTop
    have first := List.head?_dropWhile_not shell.isStale shell.overlays
    rw [isTop] at first
    exact first
  unfold settle
  simp only
  split
  · next same =>
    have nothing := (List.dropWhile_suffix shell.isStale).eq_of_length same
    rw [nothing] at fresh
    exact fresh
  · have dropped : ({ shell with overlays := shell.overlays.dropWhile shell.isStale } :
        Shell Picture).Settled := fresh
    exact dropped.surface

theorem Settled.pushOverlay (settled : shell.Settled) {overlay : Overlay}
    (other : overlay.kind ≠ Overlay.questionKind) : (shell.pushOverlay overlay).Settled := by
  unfold Shell.pushOverlay
  split
  · exact settled
  · rintro _ ⟨⟩
    exact isStale_eq_false_iff.mpr fun isQuestion => absurd isQuestion other

theorem Settled.requestQuit (settled : shell.Settled) : shell.requestQuit.Settled := by
  unfold Shell.requestQuit
  split
  · exact settled
  · exact settled.pushOverlay (by decide)

theorem Settled.requestHelp (settled : shell.Settled) : shell.requestHelp.Settled := by
  unfold Shell.requestHelp
  split
  · exact settled
  · exact settled.pushOverlay (by decide)

theorem Settled.requestQuestion (settled : shell.Settled) : shell.requestQuestion.Settled := by
  unfold Shell.requestQuestion
  split
  · exact settled
  · next next =>
    split
    · exact settled
    · exact settled.openQuestion (isQueued_front next)

theorem Settled.of_same (settled : shell.Settled) (overlays : later.overlays = shell.overlays)
    (questions : later.questions = shell.questions) : later.Settled := by
  rw [Settled, overlays, isStale_congr questions]
  exact settled

theorem Settled.cycleFocus (settled : shell.Settled) (forward : Bool) :
    (shell.cycleFocus forward).Settled := by
  unfold Shell.cycleFocus
  simp only
  split
  · exact settled
  · exact settled

theorem Settled.goBack (settled : shell.Settled) : shell.goBack.Settled := by
  unfold Shell.goBack
  split
  · exact settled
  · exact settled_settle _

/-- Confirming to quit may uncover any overlay; otherwise the stack is settled. -/
theorem Settled.goAhead (settled : shell.Settled) :
    shell.goAhead.1.quitting = true ∨ shell.goAhead.1.Settled := by
  unfold Shell.goAhead
  split
  · split
    · exact Or.inl rfl
    · exact Or.inr (settled_settle _)
  · split
    · next target _ =>
      exact Or.inr (settled.of_same (overlays_pushView shell target)
        (congrArg Prod.fst (queue_pushView shell target)))
    · exact Or.inr settled

theorem Settled.command (settled : shell.Settled) (key : Key) :
    (shell.command key).1.quitting = true ∨ (shell.command key).1.Settled := by
  unfold Shell.command
  split
  · exact Or.inr (settled.cycleFocus true)
  · exact Or.inr (settled.cycleFocus false)
  · exact Or.inr settled.goBack
  · exact settled.goAhead
  · split
    · exact Or.inr settled.requestHelp
    split
    · exact Or.inr settled.requestQuit
    split
    · exact Or.inr settled.requestQuestion
    · exact Or.inr settled
  · exact Or.inr settled

theorem Settled.press (settled : shell.Settled) (key : Key) :
    (shell.press key).1.quitting = true ∨ (shell.press key).1.Settled := by
  unfold Shell.press
  split
  · exact settled.command key
  · simp only
    split
    · refine Settled.command ?_ key
      exact settled
    · exact Or.inr settled
    · exact Or.inr settled
    · exact Or.inr (settled_settle _)

/-! ### News -/

theorem isQueued_enqueue {id : String} (isQueued : shell.isQueued id = true)
    (question : Question) : (shell.enqueue question).isQueued id = true := by
  obtain ⟨other, member, same⟩ := isQueued_iff.mp isQueued
  exact isQueued_iff.mpr ⟨other, List.mem_append_left _ member, same⟩

theorem Settled.enqueue (settled : shell.Settled) (question : Question) :
    (shell.enqueue question).Settled := by
  intro top isTop
  refine isStale_eq_false_iff.mpr fun isQuestion => ?_
  have live := isStale_eq_false_iff.mp (settled top isTop) isQuestion
  exact isLive_of_isQueued live fun _ isQueued => isQueued_enqueue isQueued question

theorem Settled.hearAsked (settled : shell.Settled) (question : Question) :
    (shell.hearAsked question).Settled := by
  unfold Shell.hearAsked
  split
  · exact settled
  · exact (settled.enqueue question).surface

theorem Settled.hearRejected (settled : shell.Settled) (id reason : String) :
    (shell.hearRejected id reason).Settled := by
  unfold Shell.hearRejected
  split
  · next isQueued =>
    have blamed : (shell.blame id reason).Settled := settled
    exact blamed.openQuestion isQueued
  · exact settled

theorem Settled.hearRetracted (settled : shell.Settled) (id : String) :
    (shell.hearRetracted id).Settled := by
  unfold Shell.hearRetracted
  simp only
  split
  · exact (settled_settle _).surface
  · next absent =>
    exact settled.of_same rfl (questions_removeQuestion_of_absent (Bool.eq_false_iff.mpr absent))

/-- No event leaves a question on top that has left the queue, unless the operator quits. -/
theorem Settled.update (settled : shell.Settled) (event : Event) :
    (shell.update event).1.quitting = true ∨ (shell.update event).1.Settled := by
  cases quit : shell.quitting with
  | true =>
    rw [update_of_quitting quit]
    exact Or.inr settled
  | false =>
    cases event with
    | key key => rw [update_key quit]; exact settled.press key
    | interrupt => rw [update_interrupt quit]; exact Or.inr settled.requestQuit
    | resize width height => rw [update_resize quit]; exact Or.inr settled
    | asked question => rw [update_asked quit]; exact Or.inr (settled.hearAsked question)
    | accepted id => rw [update_accepted quit]; exact Or.inr (settled_settle _).surface
    | rejected id reason => rw [update_rejected quit]; exact Or.inr (settled.hearRejected id reason)
    | retracted id => rw [update_retracted quit]; exact Or.inr (settled.hearRetracted id)

/-! ### Sequences of events -/

/-- The stack is in order: nothing is repeated, and before the operator quits the overlay on top
shows no question that has left the queue. -/
structure Orderly (shell : Shell Picture) : Prop where
  unrepeated : Unrepeated shell.overlays
  settled : shell.quitting = false → shell.Settled

theorem Orderly.update (orderly : shell.Orderly) (event : Event) :
    (shell.update event).1.Orderly := by
  refine ⟨orderly.unrepeated.update event, fun goesOn => ?_⟩
  cases going : shell.quitting with
  | true =>
    rw [update_of_quitting going] at goesOn
    exact absurd (going.symm.trans goesOn) (by decide)
  | false =>
    refine ((orderly.settled going).update event).resolve_left fun quits => ?_
    exact absurd (quits.symm.trans goesOn) (by decide)

theorem Orderly.updateAll (orderly : shell.Orderly) (events : List Event) :
    (shell.updateAll events).1.Orderly := by
  induction events generalizing shell with
  | nil => exact orderly
  | cons event rest inductionHypothesis => exact inductionHypothesis (orderly.update event)

/-- The stack of a shell that starts without overlays is in order after any events. -/
theorem stack_stays_orderly (empty : shell.overlays = []) (events : List Event) :
    (shell.updateAll events).1.Orderly := by
  refine Orderly.updateAll ⟨?_, fun _ top isTop => ?_⟩ events
  · rw [empty]
    exact unrepeated_nil
  · rw [empty] at isTop
    cases isTop

/-- A question is withdrawn under the key reference, and after another one it is asked again. -/
def burying : List Event :=
  [.asked (.plain "Q-1" "Which store?"), .key (.char '?'), .retracted "Q-1",
    .asked (.plain "Q-2" "Which name?"), .asked (.plain "Q-1" "Which store?")]

/-- The question comes back to life where it lies, and is not opened a second time. -/
theorem stack_stays_orderly_burying :
    ((start "fleet" : Shell Unit).updateAll burying).1.overlays =
        [.question "Q-2", .help, .question "Q-1"] ∧
      ((start "fleet" : Shell Unit).updateAll burying).1.Orderly :=
  ⟨by decide, stack_stays_orderly rfl burying⟩

end OperatorDesk.Shell
