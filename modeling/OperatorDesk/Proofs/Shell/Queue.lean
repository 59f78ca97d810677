/-
This file says what the shell does to the queue of questions. What the operator opens, closes or
moves leaves the queue alone, and the question that the overlay on top shows is queued. The queue
changes with the news from the gate.
-/

import OperatorDesk.Shell

namespace OperatorDesk.Shell

variable {Picture : Type} {shell : Shell Picture}

/-- What the gate's news are about: the questions that wait, and whether the operator has quit. -/
def queue (shell : Shell Picture) : List Question × Bool :=
  (shell.questions, shell.quitting)

/-! ### What leaves the queue alone -/

@[simp]
theorem queue_pushView (shell : Shell Picture) (id : String) :
    (shell.pushView id).queue = shell.queue := by
  unfold pushView
  split
  · rfl
  · split <;> rfl

@[simp]
theorem queue_pushOverlay (shell : Shell Picture) (overlay : Overlay) :
    (shell.pushOverlay overlay).queue = shell.queue := by
  unfold pushOverlay
  split <;> rfl

@[simp]
theorem queue_setStatus (shell : Shell Picture) (status : String) :
    (shell.setStatus status).queue = shell.queue :=
  rfl

@[simp]
theorem queue_cycleFocus (shell : Shell Picture) (forward : Bool) :
    (shell.cycleFocus forward).queue = shell.queue := by
  unfold cycleFocus
  simp only
  split <;> rfl

@[simp]
theorem queue_openQuestion (shell : Shell Picture) (id : String) :
    (shell.openQuestion id).queue = shell.queue := by
  unfold openQuestion
  split
  · rfl
  · exact queue_pushOverlay _ _

@[simp]
theorem queue_openFront (shell : Shell Picture) : shell.openFront.queue = shell.queue := by
  unfold openFront
  split
  · rfl
  · exact queue_openQuestion shell _

@[simp]
theorem queue_surface (shell : Shell Picture) : shell.surface.queue = shell.queue := by
  unfold surface
  split
  · rfl
  · exact queue_openFront shell

@[simp]
theorem queue_settle (shell : Shell Picture) : shell.settle.queue = shell.queue := by
  unfold settle
  simp only
  split
  · rfl
  · exact queue_surface _

@[simp]
theorem queue_requestQuit (shell : Shell Picture) : shell.requestQuit.queue = shell.queue := by
  unfold requestQuit
  split
  · rfl
  · exact queue_pushOverlay shell _

@[simp]
theorem queue_requestHelp (shell : Shell Picture) : shell.requestHelp.queue = shell.queue := by
  unfold requestHelp
  split
  · rfl
  · exact queue_pushOverlay shell _

@[simp]
theorem queue_requestQuestion (shell : Shell Picture) :
    shell.requestQuestion.queue = shell.queue := by
  unfold requestQuestion
  split
  · rfl
  · split
    · rfl
    · exact queue_openQuestion shell _

@[simp]
theorem queue_goBack (shell : Shell Picture) : shell.goBack.queue = shell.queue := by
  unfold goBack
  split
  · rfl
  · exact queue_settle _

/-! ### News from the gate -/

/-- A question that was asked is queued last, unless its id is queued already. -/
def entering (questions : List Question) (question : Question) : List Question :=
  if questions.any (·.id == question.id) then questions else questions ++ [question]

theorem queue_hearAsked (shell : Shell Picture) (question : Question) :
    (shell.hearAsked question).queue =
      (entering shell.questions question, shell.quitting) := by
  have sameTest : shell.questions.any (·.id == question.id) = shell.isQueued question.id := rfl
  unfold hearAsked entering
  rw [sameTest]
  split
  · rfl
  · exact queue_surface _

theorem queue_hearAccepted (shell : Shell Picture) (id : String) :
    (shell.hearAccepted id).queue = (shell.questions.filter (·.id != id), shell.quitting) := by
  unfold hearAccepted
  simp only [queue_surface, queue_settle]
  split <;> rfl

theorem queue_hearRejected (shell : Shell Picture) (id reason : String) :
    (shell.hearRejected id reason).queue = shell.queue := by
  unfold hearRejected
  split
  · exact queue_openQuestion _ _
  · rfl

theorem queue_hearRetracted (shell : Shell Picture) (id : String) :
    (shell.hearRetracted id).queue = (shell.questions.filter (·.id != id), shell.quitting) := by
  unfold hearRetracted
  simp only
  split
  · simp only [queue_surface, queue_settle, queue_setStatus]
    rfl
  · rfl

/-- After quitting the shell hears nothing. -/
theorem update_of_quitting (quit : shell.quitting = true) (event : Event) :
    shell.update event = (shell, none) := by
  unfold update
  exact if_pos quit

section Going

variable (going : shell.quitting = false)

include going

theorem update_key (key : Key) : shell.update (.key key) = shell.press key := by
  unfold update
  exact if_neg (Bool.eq_false_iff.mp going)

theorem update_interrupt : shell.update .interrupt = (shell.requestQuit, none) := by
  unfold update
  exact if_neg (Bool.eq_false_iff.mp going)

theorem update_resize (width height : Nat) :
    shell.update (.resize width height) = (shell.resize width height, none) := by
  unfold update
  exact if_neg (Bool.eq_false_iff.mp going)

theorem update_asked (question : Question) :
    shell.update (.asked question) = (shell.hearAsked question, none) := by
  unfold update
  exact if_neg (Bool.eq_false_iff.mp going)

theorem update_accepted (id : String) :
    shell.update (.accepted id) = (shell.hearAccepted id, none) := by
  unfold update
  exact if_neg (Bool.eq_false_iff.mp going)

theorem update_rejected (id reason : String) :
    shell.update (.rejected id reason) = (shell.hearRejected id reason, none) := by
  unfold update
  exact if_neg (Bool.eq_false_iff.mp going)

theorem update_retracted (id : String) :
    shell.update (.retracted id) = (shell.hearRetracted id, none) := by
  unfold update
  exact if_neg (Bool.eq_false_iff.mp going)

end Going

/-! ### Entering -/

theorem mem_entering {questions : List Question} {question other : Question}
    (member : other ∈ entering questions question) : other ∈ questions ∨ other = question := by
  unfold entering at member
  split at member
  · exact Or.inl member
  · exact (List.mem_append.mp member).imp_right List.mem_singleton.mp

theorem ids_entering (questions : List Question) (question : Question) (id : String) :
    id ∈ (entering questions question).map Question.id ↔
      id ∈ questions.map Question.id ∨ id = question.id := by
  unfold entering
  split
  · next queued =>
    obtain ⟨other, member, same⟩ := List.any_eq_true.mp queued
    have present : question.id ∈ questions.map Question.id :=
      List.mem_map.mpr ⟨other, member, beq_iff_eq.mp same⟩
    constructor
    · exact Or.inl
    · rintro (queued | rfl)
      · exact queued
      · exact present
  · rw [List.map_append, List.mem_append, List.map_singleton, List.mem_singleton]

theorem nodup_entering {questions : List Question}
    (distinct : (questions.map Question.id).Nodup) (question : Question) :
    ((entering questions question).map Question.id).Nodup := by
  unfold entering
  split
  · exact distinct
  · next unqueued =>
    rw [List.map_append]
    refine List.nodup_append.mpr ⟨distinct, List.pairwise_singleton _ _, ?_⟩
    intro first isFirst last isLast same
    obtain ⟨other, member, rfl⟩ := List.mem_map.mp isFirst
    rw [List.map_singleton, List.mem_singleton] at isLast
    exact unqueued (List.any_eq_true.mpr ⟨other, member, beq_iff_eq.mpr (same.trans isLast)⟩)

theorem mem_foldl_entering {asked questions : List Question} {question : Question}
    (member : question ∈ asked.foldl entering questions) :
    question ∈ questions ∨ question ∈ asked := by
  induction asked generalizing questions with
  | nil => exact Or.inl member
  | cons first rest inductionHypothesis =>
    rcases inductionHypothesis member with entered | later
    · refine (mem_entering entered).imp_right fun isFirst => ?_
      rw [isFirst]
      exact List.mem_cons_self
    · exact Or.inr (List.mem_cons_of_mem first later)

theorem ids_foldl_entering (asked questions : List Question) (id : String) :
    id ∈ (asked.foldl entering questions).map Question.id ↔
      id ∈ questions.map Question.id ∨ id ∈ asked.map Question.id := by
  induction asked generalizing questions with
  | nil => simp
  | cons first rest inductionHypothesis =>
    rw [List.foldl_cons, inductionHypothesis, ids_entering, List.map_cons, List.mem_cons, or_assoc]

theorem nodup_foldl_entering (asked : List Question) {questions : List Question}
    (distinct : (questions.map Question.id).Nodup) :
    ((asked.foldl entering questions).map Question.id).Nodup := by
  induction asked generalizing questions with
  | nil => exact distinct
  | cons first rest inductionHypothesis =>
    exact inductionHypothesis (nodup_entering distinct first)

/-! ### The question on top -/

theorem queued?_of_topQuestion? {question : Question}
    (onTop : shell.topQuestion? = some question) : shell.queued? question.id = some question := by
  unfold topQuestion? at onTop
  split at onTop
  · cases onTop
  · split at onTop
    · obtain ⟨id, -, isQueued⟩ := Option.bind_eq_some_iff.mp onTop
      have sameId : question.id = id :=
        beq_iff_eq.mp (List.find?_some (p := fun question : Question => question.id == id) isQueued)
      rw [sameId]
      exact isQueued
    · cases onTop

theorem questionId_composerFor (shell : Shell Picture) (id : String) :
    (shell.composerFor id).questionId = id := by
  unfold composerFor
  split
  · split
    · assumption
    · rfl
  · rfl

theorem composerFor_of_own {composer : Composer} (isComposer : shell.composer = some composer) :
    shell.composerFor composer.questionId = composer := by
  rw [composerFor, isComposer]
  exact if_pos rfl

end OperatorDesk.Shell
