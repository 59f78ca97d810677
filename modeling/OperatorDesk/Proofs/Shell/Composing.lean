/-
This file says what a key can do to the composer of a question. It never touches which question the
composer belongs to, it highlights an option only if there is one, and it starts typing or marks the
answer for a broadcast only if the question allows it.
-/

import OperatorDesk.Shell.Composer

namespace OperatorDesk.Composer

variable {composer : Composer} {question : Question}

/-! ### What becomes of a key -/

/-- The index is that of an option, or is highlighted already. -/
def CanHighlight (composer : Composer) (question : Question) (index : Nat) : Prop :=
  index = composer.highlighted ∨ index < question.options.length

/-- The results that a key offered to the composer can have. -/
inductive Pressed (composer : Composer) (question : Question) : Composer × Composed → Prop where
  | ignored : Pressed composer question (composer, .ignored)
  | noticed (text : String) : Pressed composer question (composer, .notice text)
  | highlights (index : Nat) (inside : composer.CanHighlight question index) :
    Pressed composer question ({ composer with highlighted := index }, .handled)
  | opensDraft (welcome : question.allowsFreeText = true) :
    Pressed composer question ({ composer with editing := true }, .handled)
  | closesDraft : Pressed composer question ({ composer with editing := false }, .handled)
  | drafts (text : String) : Pressed composer question ({ composer with draft := text }, .handled)
  | marks (allowed : question.allowsBroadcast = true) :
    Pressed composer question ({ composer with broadcast := !composer.broadcast }, .handled)
  | commits (index : Nat) (inside : composer.CanHighlight question index) (response : Response) :
    Pressed composer question ({ composer with highlighted := index }.commit response)

theorem canHighlight_next (composer : Composer) (question : Question) :
    composer.CanHighlight question (next question.options.length composer.highlighted) := by
  unfold next
  split
  · exact Or.inl rfl
  · next some => exact Or.inr (Nat.mod_lt _ (Nat.pos_of_ne_zero some))

theorem canHighlight_previous (composer : Composer) (question : Question) :
    composer.CanHighlight question (previous question.options.length composer.highlighted) := by
  unfold previous
  split
  · exact Or.inl rfl
  · next some => exact Or.inr (Nat.mod_lt _ (Nat.pos_of_ne_zero some))

theorem pressed_startEditing (composer : Composer) (question : Question) :
    Pressed composer question (composer.startEditing question) := by
  unfold startEditing
  split
  · next welcome => exact .opensDraft welcome
  · exact .noticed _

theorem pressed_toggleBroadcast (composer : Composer) (question : Question) :
    Pressed composer question (composer.toggleBroadcast question) := by
  unfold toggleBroadcast
  split
  · next allowed => exact .marks allowed
  · exact .noticed _

theorem pressed_pressEnter (composer : Composer) (question : Question) :
    Pressed composer question (composer.pressEnter question) := by
  unfold pressEnter
  split
  · next picks =>
    obtain ⟨option, -, rfl⟩ := Option.map_eq_some_iff.mp picks
    exact .commits composer.highlighted (Or.inl rfl) (.selected option)
  · split
    · exact pressed_startEditing composer question
    · exact .noticed _

theorem pressed_pressDigit (composer : Composer) (question : Question) (digit : Char) :
    Pressed composer question (composer.pressDigit question digit) := by
  unfold pressDigit
  simp only
  split
  · next picks =>
    obtain ⟨option, found, rfl⟩ := Option.map_eq_some_iff.mp picks
    exact .commits _ (Or.inr (List.getElem?_eq_some_iff.mp found).1) (.selected option)
  · exact .noticed _

theorem pressed_pressChar (composer : Composer) (question : Question) (c : Char) :
    Pressed composer question (composer.pressChar question c) := by
  unfold pressChar
  split
  · exact .highlights _ (canHighlight_previous composer question)
  split
  · exact .highlights _ (canHighlight_next composer question)
  split
  · exact pressed_pressDigit composer question c
  split
  · exact .commits composer.highlighted (Or.inl rfl) .skip
  split
  · exact pressed_toggleBroadcast composer question
  split
  · exact pressed_startEditing composer question
  · exact .ignored

theorem pressed_pressEditing (composer : Composer) (question : Question) (key : Key) :
    Pressed composer question (composer.pressEditing key) := by
  cases key with
  | char c => exact .drafts _
  | backspace => exact .drafts _
  | enter => exact .commits composer.highlighted (Or.inl rfl) _
  | esc => exact .closesDraft
  | _ => exact .ignored

/-- Every key has one of these results. -/
theorem pressed_press (composer : Composer) (question : Question) (key : Key) :
    Pressed composer question (composer.press question key) := by
  unfold press
  split
  · exact pressed_pressEditing composer question key
  · cases key with
    | up => exact pressed_pressChar composer question 'k'
    | down => exact pressed_pressChar composer question 'j'
    | char c => exact pressed_pressChar composer question c
    | enter => exact pressed_pressEnter composer question
    | _ => exact .ignored

/-! ### What a key leaves alone -/

theorem questionId_press (composer : Composer) (question : Question) (key : Key) :
    (composer.press question key).1.questionId = composer.questionId := by
  have pressed := pressed_press composer question key
  generalize composer.press question key = result at pressed
  cases pressed <;> rfl

theorem press_of_ignored {key : Key} (ignored : (composer.press question key).2 = .ignored) :
    (composer.press question key).1 = composer := by
  have pressed := pressed_press composer question key
  generalize composer.press question key = result at pressed ignored
  cases pressed with
  | ignored => rfl
  | _ => cases ignored

/-- The composer always has a use for Enter. -/
theorem press_enter_ne_ignored (composer : Composer) (question : Question) :
    (composer.press question .enter).2 ≠ .ignored := by
  unfold press
  cases composer.editing with
  | true => exact Composed.noConfusion
  | false =>
    simp only [Bool.false_eq_true, if_false, pressEnter, startEditing]
    split
    · next picks =>
      obtain ⟨option, -, rfl⟩ := Option.map_eq_some_iff.mp picks
      exact Composed.noConfusion
    · split <;> exact Composed.noConfusion

/-- The composer has a use for Esc while the draft is being typed. -/
theorem editing_of_esc_ignored (ignored : (composer.press question .esc).2 = .ignored) :
    composer.editing = false := by
  refine Bool.eq_false_iff.mpr fun editing => ?_
  unfold press at ignored
  rw [if_pos editing] at ignored
  cases ignored

/-! ### Entries that the question allows -/

/-- What has been entered is possible for the question. -/
structure Fits (composer : Composer) (question : Question) : Prop where
  highlighted : composer.highlighted = 0 ∨ composer.highlighted < question.options.length
  editing : composer.editing = true → question.allowsFreeText = true
  broadcast : composer.broadcast = true → question.allowsBroadcast = true

theorem fits_fresh (id : String) (question : Question) : (fresh id).Fits question where
  highlighted := Or.inl rfl
  editing := nofun
  broadcast := nofun

theorem Fits.of_canHighlight (fits : composer.Fits question) {index : Nat}
    (inside : composer.CanHighlight question index) :
    index = 0 ∨ index < question.options.length := by
  rcases inside with rfl | inside
  · exact fits.highlighted
  · exact Or.inr inside

/-- No key enters anything that the question does not allow. -/
theorem Fits.press (fits : composer.Fits question) (key : Key) :
    (composer.press question key).1.Fits question := by
  have pressed := pressed_press composer question key
  generalize composer.press question key = result at pressed
  cases pressed with
  | ignored => exact fits
  | noticed text => exact fits
  | highlights index inside => exact { fits with highlighted := fits.of_canHighlight inside }
  | opensDraft welcome => exact { fits with editing := fun _ => welcome }
  | closesDraft => exact { fits with editing := nofun }
  | drafts text => exact { fits with }
  | marks allowed => exact { fits with broadcast := fun _ => allowed }
  | commits index inside response => exact { fits with highlighted := fits.of_canHighlight inside }

end OperatorDesk.Composer
