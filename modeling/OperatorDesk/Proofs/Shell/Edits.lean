/-
This file says once what an event can do to a shell. Apart from a question that enters the queue
and a refused answer, which is put again, every event is a sequence of small edits: the composer of
the question on top takes a key, a question is taken out of the queue, or what is shown is shifted.
In a shift a view is opened or left, overlays are taken from the top, an overlay is laid where none
of its kind lies, or the question that has waited longest is shown. What all edits keep, every event
keeps.
-/

import Mathlib.Logic.Relation
import OperatorDesk.Proofs.Shell.Queue

namespace OperatorDesk.Shell

variable {Picture : Type} {shell later : Shell Picture}

/-! ### Shifts and edits -/

/-- A small change of what is open or on top; what is queued and what was entered stay, except that
the composer can turn to the question that is shown. -/
inductive Shift (shell : Shell Picture) : Shell Picture → Prop where
  | visits (id : String) : Shift shell (shell.pushView id)
  | leaves : Shift shell shell.popView.1
  | focuses (view : String) (index : Nat) : Shift shell (shell.focusOn view index)
  | measures (width height : Nat) : Shift shell (shell.resize width height)
  | tells (text : String) : Shift shell (shell.setStatus text)
  | quits : Shift shell { shell with quitting := true }
  | lifts (kept : List Overlay) (below : kept <:+ shell.overlays) :
    Shift shell { shell with overlays := kept }
  | lays (overlay : Overlay) (own : overlay = .help ∨ overlay = .confirmQuit)
    (apart : shell.topIs overlay.kind = false) : Shift shell (shell.pushOverlay overlay)
  | shows (front : Question) (rest : List Question) (next : shell.questions = front :: rest) :
    Shift shell (shell.openQuestion front.id)

/-- One of the small changes that events are made of. -/
inductive Edit (shell : Shell Picture) : Shell Picture → Prop where
  | shifts (later : Shell Picture) (shift : Shift shell later) : Edit shell later
  | composes (question : Question) (onTop : shell.topQuestion? = some question) (key : Key) :
    Edit shell
      { shell with composer := some ((shell.composerFor question.id).press question key).1 }
  | removes (id : String) : Edit shell (shell.removeQuestion id)

/-- Any number of shifts. -/
def Shifts : Shell Picture → Shell Picture → Prop :=
  Relation.ReflTransGen Shift

/-- Any number of edits. -/
def Edits : Shell Picture → Shell Picture → Prop :=
  Relation.ReflTransGen Edit

theorem Shifts.edits (shifts : Shifts shell later) : Edits shell later :=
  Relation.ReflTransGen.mono (fun _ later shift => Edit.shifts later shift) _ _ shifts

/-- What every edit keeps is kept by any number of them. -/
theorem Edits.keep {Holds : Shell Picture → Prop}
    (each : ∀ {before after : Shell Picture}, Edit before after → Holds before → Holds after)
    (edits : Edits shell later) (holds : Holds shell) : Holds later := by
  induction edits with
  | refl => exact holds
  | tail _ edit inductionHypothesis => exact each edit inductionHypothesis

/-! ### Operations that are made of shifts -/

theorem shifts_openFront (shell : Shell Picture) : Shifts shell shell.openFront := by
  unfold openFront
  split
  · exact .refl
  · next front rest next => exact .single (.shows front rest next)

theorem shifts_surface (shell : Shell Picture) : Shifts shell shell.surface := by
  unfold surface
  split
  · exact .refl
  · exact shifts_openFront shell

theorem shifts_popOverlay (shell : Shell Picture) : Shifts shell shell.popOverlay.1 :=
  .single (.lifts _ (List.tail_suffix shell.overlays))

theorem shifts_settle (shell : Shell Picture) : Shifts shell shell.settle := by
  unfold settle
  simp only
  split
  · exact .refl
  · exact .head (.lifts _ (List.dropWhile_suffix _)) (shifts_surface _)

theorem shifts_cycleFocus (shell : Shell Picture) (forward : Bool) :
    Shifts shell (shell.cycleFocus forward) := by
  unfold cycleFocus
  simp only
  split
  · exact .refl
  · exact .single (.focuses _ _)

theorem shifts_requestQuit (shell : Shell Picture) : Shifts shell shell.requestQuit := by
  unfold requestQuit
  split
  · exact .refl
  · next apart => exact .single (.lays _ (Or.inr rfl) (Bool.eq_false_iff.mpr apart))

theorem shifts_requestHelp (shell : Shell Picture) : Shifts shell shell.requestHelp := by
  unfold requestHelp
  split
  · exact .refl
  · next apart => exact .single (.lays _ (Or.inl rfl) (Bool.eq_false_iff.mpr apart))

theorem shifts_requestQuestion (shell : Shell Picture) : Shifts shell shell.requestQuestion := by
  unfold requestQuestion
  split
  · exact .single (.tells _)
  · next front rest next =>
    split
    · exact .single (.tells _)
    · exact .single (.shows front rest next)

theorem shifts_goBack (shell : Shell Picture) : Shifts shell shell.goBack := by
  unfold goBack
  split
  · exact .single .leaves
  · exact (shifts_popOverlay shell).trans (shifts_settle _)

theorem shifts_goAhead (shell : Shell Picture) : Shifts shell shell.goAhead.1 := by
  unfold goAhead
  split
  · split
    · exact (shifts_popOverlay shell).tail .quits
    · exact (shifts_popOverlay shell).trans (shifts_settle _)
  · split
    · exact .single (.visits _)
    · exact .refl

theorem shifts_command (shell : Shell Picture) (key : Key) :
    Shifts shell (shell.command key).1 := by
  unfold command
  split
  · exact shifts_cycleFocus shell true
  · exact shifts_cycleFocus shell false
  · exact shifts_goBack shell
  · exact shifts_goAhead shell
  · split
    · exact shifts_requestHelp shell
    split
    · exact shifts_requestQuit shell
    split
    · exact shifts_requestQuestion shell
    · exact .refl
  · exact .refl

theorem shifts_sendAnswer (shell : Shell Picture) (answer : Answer) :
    Shifts shell (shell.sendAnswer answer).1 :=
  ((shifts_popOverlay shell).trans (shifts_settle _)).tail (.tells _)

/-- Once the question on top has its composer, a key only shifts what is shown. -/
theorem shifts_press {question : Question} (onTop : shell.topQuestion? = some question)
    (key : Key) :
    Shifts { shell with composer := some ((shell.composerFor question.id).press question key).1 }
      (shell.press key).1 := by
  unfold press
  rw [onTop]
  simp only
  split
  · exact shifts_command _ key
  · exact .refl
  · exact .single (.tells _)
  · exact shifts_sendAnswer _ _

/-- Once the question has been taken out, hearing of the answer only shifts what is shown. -/
theorem shifts_hearAccepted (shell : Shell Picture) (id : String) :
    Shifts (shell.removeQuestion id) (shell.hearAccepted id) := by
  refine Relation.ReflTransGen.trans ?_ ((shifts_settle _).trans (shifts_surface _))
  split
  · exact .single (.tells _)
  · exact .refl

theorem shifts_hearRetracted (shell : Shell Picture) (id : String) :
    Shifts (shell.removeQuestion id) (shell.hearRetracted id) := by
  unfold hearRetracted
  simp only
  split
  · exact .head (.tells _) ((shifts_settle _).trans (shifts_surface _))
  · exact .refl

theorem edits_press (shell : Shell Picture) (key : Key) : Edits shell (shell.press key).1 := by
  cases onTop : shell.topQuestion? with
  | none =>
    unfold press
    rw [onTop]
    exact (shifts_command shell key).edits
  | some question => exact .head (.composes question onTop key) (shifts_press onTop key).edits

/-! ### Events -/

/-- The question joins the queue. -/
def enqueue (shell : Shell Picture) (question : Question) : Shell Picture :=
  { shell with
    status := some (question.agent ++ " is asking a question")
    questions := shell.questions ++ [question] }

/-- The composer tells why the answer was refused. -/
def blame (shell : Shell Picture) (id reason : String) : Shell Picture :=
  { shell with
    composer := some { shell.composerFor id with error := some reason }
    status := some ("Answer to " ++ id ++ " rejected: " ++ reason) }

/-- What an event can do. -/
inductive Heeds (shell : Shell Picture) : Event → Shell Picture → Prop where
  | edits (event : Event) (later : Shell Picture) (edits : Edits shell later) :
    Heeds shell event later
  | asked (question : Question) (isNew : shell.isQueued question.id = false) :
    Heeds shell (.asked question) (shell.enqueue question).surface
  | rejected (id reason : String) (isQueued : shell.isQueued id = true) :
    Heeds shell (.rejected id reason) ((shell.blame id reason).openQuestion id)

theorem heeds_update (shell : Shell Picture) (event : Event) :
    Heeds shell event (shell.update event).1 := by
  cases quit : shell.quitting with
  | true =>
    rw [update_of_quitting quit]
    exact .edits event shell .refl
  | false =>
    cases event with
    | key key =>
      rw [update_key quit]
      exact .edits _ _ (edits_press shell key)
    | interrupt =>
      rw [update_interrupt quit]
      exact .edits _ _ (shifts_requestQuit shell).edits
    | resize width height =>
      rw [update_resize quit]
      exact .edits _ _ (.single (.shifts _ (.measures width height)))
    | asked question =>
      rw [update_asked quit, hearAsked]
      split
      · exact .edits _ _ .refl
      · next isNew => exact .asked question (Bool.eq_false_iff.mpr isNew)
    | accepted id =>
      rw [update_accepted quit]
      exact .edits _ _ (.head (.removes id) (shifts_hearAccepted shell id).edits)
    | rejected id reason =>
      rw [update_rejected quit, hearRejected]
      split
      · next isQueued => exact .rejected id reason isQueued
      · exact .edits _ _ .refl
    | retracted id =>
      rw [update_retracted quit]
      exact .edits _ _ (.head (.removes id) (shifts_hearRetracted shell id).edits)

end OperatorDesk.Shell
