/-
This file says what becomes of the operator's entries for one question while keys go elsewhere. The
shell has a single composer. Keys that a question's own composer does not use, and news that leave
the question in the queue, change its entries in one way only: the composer is turned to another
question, and then they are lost.
-/

import OperatorDesk.Shell.Hearing
import OperatorDesk.Proofs.Shell.Composing
import OperatorDesk.Proofs.Shell.Edits
import OperatorDesk.Proofs.Shell.Showing

namespace OperatorDesk

/-- What the operator has entered for a question. -/
structure Entries where
  highlighted : Nat
  broadcast : Bool
  editing : Bool
  draft : String
  deriving DecidableEq, Repr

/-- Nothing has been entered. -/
def Entries.blank : Entries :=
  { highlighted := 0, broadcast := false, editing := false, draft := "" }

/-- What has been entered into a composer. -/
def Composer.entries (composer : Composer) : Entries :=
  { highlighted := composer.highlighted, broadcast := composer.broadcast,
    editing := composer.editing, draft := composer.draft }

theorem Notice.eq_of_key? {notice : Notice} {key : Key} (isKey : notice.key? = some key) :
    notice = .event (.key key) := by
  unfold key? at isKey
  split at isKey
  · cases isKey
    rfl
  · cases isKey

namespace Shell

variable {Picture : Type} {shell later : Shell Picture} {id : String}

/-- What has been entered for a question. -/
def entriesFor (shell : Shell Picture) (id : String) : Entries :=
  (shell.composerFor id).entries

/-- The composer is that of the question. -/
def Holds (shell : Shell Picture) (id : String) : Prop :=
  ∃ composer, shell.composer = some composer ∧ composer.questionId = id

/-- The composer is that of another question. -/
def HoldsOther (shell : Shell Picture) (id : String) : Prop :=
  ∃ composer, shell.composer = some composer ∧ composer.questionId ≠ id

/-- The notice is a key, and the question's own composer has a use for it. -/
def Uses (shell : Shell Picture) (id : String) (notice : Notice) : Prop :=
  shell.quitting = false ∧ ∃ key ∈ notice.key?, ∃ question ∈ shell.topQuestion?,
    question.id = id ∧ ((shell.composerFor id).press question key).2 ≠ .ignored

instance (shell : Shell Picture) (id : String) (notice : Notice) :
    Decidable (shell.Uses id notice) :=
  inferInstanceAs (Decidable (_ ∧ ∃ key ∈ notice.key?, ∃ question ∈ shell.topQuestion?, _))

/-- The notice is a key, and goes to the composer of another question. -/
def UsesOther (shell : Shell Picture) (id : String) (notice : Notice) : Prop :=
  shell.quitting = false ∧ (∃ key, key ∈ notice.key?) ∧
    ∃ question ∈ shell.topQuestion?, question.id ≠ id

/-- The composer is that of the question, and is turned to another one. -/
def Displaces (shell : Shell Picture) (id : String) (notice : Notice) : Prop :=
  shell.Holds id ∧ (shell.UsesOther id notice ∨ (shell.hear notice).HoldsOther id)

/-! ### Entries and the composer -/

theorem composerFor_congr (same : later.composer = shell.composer) (id : String) :
    later.composerFor id = shell.composerFor id := by
  rw [composerFor, same]
  rfl

theorem entriesFor_of_not_holds (free : ¬shell.Holds id) : shell.entriesFor id = .blank := by
  unfold entriesFor composerFor
  split
  · next composer isComposer =>
    rw [if_neg fun own => free ⟨composer, isComposer, own⟩]
    rfl
  · rfl

theorem HoldsOther.not_holds (other : shell.HoldsOther id) : ¬shell.Holds id := by
  obtain ⟨composer, isComposer, different⟩ := other
  rintro ⟨own, isOwn, same⟩
  cases Option.some_inj.mp (isOwn.symm.trans isComposer)
  exact different same

theorem HoldsOther.entriesFor (other : shell.HoldsOther id) : shell.entriesFor id = .blank :=
  entriesFor_of_not_holds other.not_holds

/-! ### Turning to the question that has waited longest -/

/-- The queue is the same, and the composer has not moved, or has turned to the question that has
waited longest. -/
structure Follows (shell later : Shell Picture) : Prop where
  questions : later.questions = shell.questions
  composer : later.composer = shell.composer ∨ ∃ front rest,
    shell.questions = front :: rest ∧ later.composer = some (shell.composerFor front.id)

theorem Follows.refl (shell : Shell Picture) : Follows shell shell :=
  ⟨rfl, Or.inl rfl⟩

theorem Follows.trans {last : Shell Picture} (first : Follows shell later)
    (second : Follows later last) : Follows shell last := by
  refine ⟨second.questions.trans first.questions, ?_⟩
  rcases second.composer with same | ⟨front, rest, next, turned⟩
  · rw [same]
    exact first.composer
  · rw [first.questions] at next
    refine Or.inr ⟨front, rest, next, turned.trans (congrArg some ?_)⟩
    rcases first.composer with same | ⟨other, _, isNext, turned⟩
    · exact composerFor_congr same front.id
    · cases next.symm.trans isNext
      have own := composerFor_of_own turned
      rwa [questionId_composerFor] at own

theorem follows_shift (shift : Shift shell later) : Follows shell later := by
  cases shift with
  | visits id =>
    unfold pushView
    split
    · exact .refl shell
    · split <;> exact ⟨rfl, Or.inl rfl⟩
  | lays overlay _ _ =>
    unfold pushOverlay
    split
    · exact .refl shell
    · exact ⟨rfl, Or.inl rfl⟩
  | shows front rest next =>
    rw [openQuestion_eq]
    split
    · exact .refl shell
    · exact ⟨rfl, Or.inr ⟨front, rest, next, rfl⟩⟩
  | _ => exact ⟨rfl, Or.inl rfl⟩

theorem follows_shifts (shifts : Shifts shell later) : Follows shell later := by
  induction shifts with
  | refl => exact .refl shell
  | tail _ shift inductionHypothesis => exact inductionHypothesis.trans (follows_shift shift)

/-! ### One notice -/

/-- The question's entries are the same, or the composer is that of another question. -/
def Spared (id : String) (shell later : Shell Picture) : Prop :=
  later.entriesFor id = shell.entriesFor id ∨ later.HoldsOther id

/-- Turning the composer spares what has been entered for the question it turns to. -/
theorem spared_of_turned {composer : Composer} (turned : later.composer = some composer)
    (same : composer.entries = shell.entriesFor composer.questionId) (id : String) :
    Spared id shell later := by
  by_cases own : composer.questionId = id
  · subst own
    exact Or.inl ((congrArg Composer.entries (composerFor_of_own turned)).trans same)
  · exact Or.inr ⟨composer, turned, own⟩

theorem Follows.spared (follows : Follows shell later) (id : String) : Spared id shell later := by
  rcases follows.composer with same | ⟨front, rest, next, turned⟩
  · exact Or.inl (congrArg Composer.entries (composerFor_congr same id))
  · refine spared_of_turned turned ?_ id
    rw [questionId_composerFor]
    rfl

theorem Spared.blank (spared : Spared id shell later) (blank : shell.entriesFor id = .blank) :
    later.entriesFor id = .blank := by
  rcases spared with same | other
  · exact same.trans blank
  · exact other.entriesFor

/-- The entries of a question whose composer it is not cannot be lost. -/
theorem Spared.resolve (spared : Spared id shell later) :
    later.entriesFor id = shell.entriesFor id ∨ shell.Holds id ∧ later.HoldsOther id := by
  by_cases holds : shell.Holds id
  · exact spared.imp_right (⟨holds, ·⟩)
  · have blank := entriesFor_of_not_holds holds
    exact Or.inl ((spared.blank blank).trans blank.symm)

theorem composer_removeQuestion (shell : Shell Picture) (other : String) :
    (shell.removeQuestion other).composer = shell.composer ∨
      shell.Holds other ∧ (shell.removeQuestion other).composer = none := by
  unfold removeQuestion
  cases isComposer : shell.composer with
  | none => exact Or.inl rfl
  | some composer =>
    by_cases gone : composer.questionId = other
    · refine Or.inr ⟨⟨composer, isComposer, gone⟩, ?_⟩
      show (some composer).filter (·.questionId != other) = none
      exact Option.filter_some_neg (bne_eq_false_iff_eq.mpr gone)
    · refine Or.inl ?_
      show (some composer).filter (·.questionId != other) = some composer
      exact Option.filter_some_pos (bne_iff_ne.mpr gone)

/-- Taking another question out of the queue spares the entries. -/
theorem entriesFor_removeQuestion {other : String} (different : id ≠ other) :
    (shell.removeQuestion other).entriesFor id = shell.entriesFor id := by
  rcases composer_removeQuestion shell other with same | ⟨⟨composer, isComposer, own⟩, nothing⟩
  · exact congrArg Composer.entries (composerFor_congr same id)
  · have holdsOther : shell.HoldsOther id :=
      ⟨composer, isComposer, fun same => different (same.symm.trans own)⟩
    have free : ¬(shell.removeQuestion other).Holds id := by
      rintro ⟨composer, isComposer, -⟩
      cases nothing.symm.trans isComposer
    rw [holdsOther.entriesFor, entriesFor_of_not_holds free]

theorem spared_of_removed {other : String} (shifts : Shifts (shell.removeQuestion other) later)
    (stays : later.isQueued id = true) : Spared id shell later := by
  have follows := follows_shifts shifts
  rw [isQueued_congr follows.questions] at stays
  have different := (isQueued_removeQuestion.mp stays).2
  exact (follows.spared id).imp_left (·.trans (entriesFor_removeQuestion different))

/-- Opening the overlay of a question leaves its composer as it is. -/
theorem composer_openQuestion {composer : Composer} (isComposer : shell.composer = some composer)
    (own : composer.questionId = id) : (shell.openQuestion id).composer = some composer := by
  rw [openQuestion_eq]
  split
  · exact isComposer
  · rw [← own]
    exact congrArg some (composerFor_of_own isComposer)

theorem spared_hearRejected (shell : Shell Picture) (id other reason : String) :
    Spared id shell (shell.hearRejected other reason) := by
  unfold hearRejected
  split
  · let blamed : Composer := { shell.composerFor other with error := some reason }
    have own : blamed.questionId = other := questionId_composerFor shell other
    have isComposer : (shell.blame other reason).composer = some blamed := rfl
    refine spared_of_turned (composer_openQuestion isComposer own) ?_ id
    rw [own]
    rfl
  · exact Or.inl rfl

/-- The key of another question spares nothing. -/
theorem blank_of_usesOther {notice : Notice} (uses : shell.UsesOther id notice) :
    (shell.hear notice).entriesFor id = .blank := by
  obtain ⟨going, ⟨key, isKey⟩, question, onTop, different⟩ := uses
  obtain rfl := Notice.eq_of_key? isKey
  have turned : ({ shell with
      composer := some ((shell.composerFor question.id).press question key).1 } :
        Shell Picture).HoldsOther id := by
    refine ⟨_, rfl, fun same => different ?_⟩
    rwa [Composer.questionId_press, questionId_composerFor] at same
  show (shell.update (.key key)).1.entriesFor id = .blank
  rw [update_key going]
  exact ((follows_shifts (shifts_press onTop key)).spared id).blank turned.entriesFor

theorem spared_press (going : shell.quitting = false) {key : Key}
    (unused : ¬shell.Uses id (.event (.key key))) :
    Spared id shell (shell.press key).1 ∨ shell.UsesOther id (.event (.key key)) := by
  cases onTop : shell.topQuestion? with
  | none =>
    have command : shell.press key = shell.command key := by
      unfold press
      rw [onTop]
    rw [command]
    exact Or.inl ((follows_shifts (shifts_command shell key)).spared id)
  | some question =>
    by_cases own : question.id = id
    · -- The question's own composer ignores the key.
      have ignored : ((shell.composerFor question.id).press question key).2 = .ignored :=
        Classical.byContradiction fun used =>
          unused ⟨going, key, rfl, question, onTop, own, own ▸ used⟩
      have follows := follows_shifts (shifts_press onTop key)
      rw [Composer.press_of_ignored ignored] at follows
      rw [own] at follows
      refine Or.inl ((follows.spared id).imp_left (·.trans ?_))
      have holds : ({ shell with composer := some (shell.composerFor id) } :
          Shell Picture).composer = some (shell.composerFor id) := rfl
      have same := composerFor_of_own holds
      rw [questionId_composerFor] at same
      exact congrArg Composer.entries same
    · exact Or.inr ⟨going, ⟨key, rfl⟩, question, onTop, own⟩

/-- An event that leaves the question in the queue, and is no key that its composer uses, spares
its entries, or is a key that goes to the composer of another question. -/
theorem spared_update {event : Event} (unused : ¬shell.Uses id (.event event))
    (stays : (shell.update event).1.isQueued id = true) :
    Spared id shell (shell.update event).1 ∨ shell.UsesOther id (.event event) := by
  cases going : shell.quitting with
  | true =>
    rw [update_of_quitting going]
    exact Or.inl (Or.inl rfl)
  | false =>
    cases event with
    | key key =>
      rw [update_key going]
      exact spared_press going unused
    | interrupt =>
      rw [update_interrupt going]
      exact Or.inl ((follows_shifts (shifts_requestQuit shell)).spared id)
    | resize width height =>
      rw [update_resize going]
      exact Or.inl (Or.inl rfl)
    | asked question =>
      rw [update_asked going, hearAsked]
      split
      · exact Or.inl (Or.inl rfl)
      · exact Or.inl ((follows_shifts (shifts_surface (shell.enqueue question))).spared id)
    | accepted other =>
      rw [update_accepted going] at stays ⊢
      exact Or.inl (spared_of_removed (shifts_hearAccepted shell other) stays)
    | rejected other reason =>
      rw [update_rejected going]
      exact Or.inl (spared_hearRejected shell id other reason)
    | retracted other =>
      rw [update_retracted going] at stays ⊢
      exact Or.inl (spared_of_removed (shifts_hearRetracted shell other) stays)

/-- Unless the composer is turned to another question, the entries are kept. -/
theorem entriesFor_hear {notice : Notice} (unused : ¬shell.Uses id notice)
    (stays : (shell.hear notice).isQueued id = true) (undisplaced : ¬shell.Displaces id notice) :
    (shell.hear notice).entriesFor id = shell.entriesFor id := by
  have spared : Spared id shell (shell.hear notice) ∨ shell.UsesOther id notice := by
    cases notice with
    | event event => exact spared_update unused stays
    | status text => exact Or.inl (Or.inl rfl)
  rcases spared with spared | uses
  · exact spared.resolve.resolve_right fun lost => undisplaced ⟨lost.1, Or.inr lost.2⟩
  · have free : ¬shell.Holds id := fun holds => undisplaced ⟨holds, Or.inl uses⟩
    rw [blank_of_usesOther uses, entriesFor_of_not_holds free]

/-- Once the composer has been turned to another question, nothing is left of the entries. -/
theorem blank_of_displaces {notice : Notice} (displaces : shell.Displaces id notice) :
    (shell.hear notice).entriesFor id = .blank := by
  rcases displaces.2 with uses | other
  · exact blank_of_usesOther uses
  · exact other.entriesFor

end Shell

end OperatorDesk
