/-
This file says which of the waiting questions can be shown. The shell opens the overlay of the one
that has waited longest, so as a rule no other is shown, and the composer is that one's. The
exception is an overlay that has lost its question and lies under another overlay: when a question
is asked under its id while others wait, it shows this question, though it is not the next one.
-/

import OperatorDesk.Proofs.Shell.Resting

namespace OperatorDesk.Shell

variable {Picture : Type} {shell later : Shell Picture} {id : String}

/-! ### The question that has waited longest -/

/-- The question that has waited longest has this id. -/
def FrontIs (shell : Shell Picture) (id : String) : Prop :=
  shell.questions.head?.map Question.id = some id

theorem frontIs_of_questions {front : Question} {rest : List Question}
    (next : shell.questions = front :: rest) : shell.FrontIs front.id := by
  rw [FrontIs, next]
  rfl

theorem FrontIs.exists_questions (front : shell.FrontIs id) :
    ∃ question rest, shell.questions = question :: rest ∧ question.id = id := by
  obtain ⟨question, isFront, own⟩ := Option.map_eq_some_iff.mp front
  obtain ⟨rest, next⟩ := List.head?_eq_some_iff.mp isFront
  exact ⟨question, rest, next, own⟩

theorem FrontIs.unique {other : String} (front : shell.FrontIs id) (same : shell.FrontIs other) :
    id = other :=
  Option.some_inj.mp (front.symm.trans same)

theorem FrontIs.congr (front : shell.FrontIs id) (questions : later.questions = shell.questions) :
    later.FrontIs id := by
  rw [FrontIs, questions]
  exact front

theorem FrontIs.removeQuestion {other : String} (front : shell.FrontIs id) (different : id ≠ other) :
    (shell.removeQuestion other).FrontIs id := by
  obtain ⟨question, rest, next, rfl⟩ := front.exists_questions
  have stays : (shell.removeQuestion other).questions =
      question :: rest.filter (·.id != other) := by
    show shell.questions.filter (·.id != other) = _
    rw [next]
    exact List.filter_cons_of_pos (bne_iff_ne.mpr different)
  exact frontIs_of_questions stays

theorem FrontIs.enqueue (front : shell.FrontIs id) (question : Question) :
    (shell.enqueue question).FrontIs id := by
  obtain ⟨other, rest, next, rfl⟩ := front.exists_questions
  have joins : (shell.enqueue question).questions = other :: (rest ++ [question]) :=
    congrArg (· ++ [question]) next
  exact frontIs_of_questions joins

/-! ### What an edit does to the queue and the stack -/

/-- No edit puts another question before the first one. -/
theorem FrontIs.edit (front : shell.FrontIs id) (edit : Edit shell later)
    (stays : later.isQueued id = true) : later.FrontIs id := by
  rcases questions_edit edit with same | ⟨other, rfl⟩
  · exact front.congr same
  · exact front.removeQuestion (isQueued_removeQuestion.mp stays).2

theorem FrontIs.edits (front : shell.FrontIs id) (edits : Edits shell later)
    (stays : later.isQueued id = true) : later.FrontIs id := by
  induction edits with
  | refl => exact front
  | tail _ edit inductionHypothesis =>
    exact (inductionHypothesis (isQueued_of_edit edit stays)).edit edit stays

theorem hasOverlayFor_cons {overlay : Overlay} {overlays : List Overlay}
    (has : ({ shell with overlays := overlay :: overlays } : Shell Picture).hasOverlayFor id = true) :
    (overlay.kind = Overlay.questionKind ∧ overlay.payload = some id) ∨
      ({ shell with overlays } : Shell Picture).hasOverlayFor id = true := by
  obtain ⟨other, member, isQuestion, shows⟩ := hasOverlayFor_iff.mp has
  rcases List.mem_cons.mp member with rfl | below
  · exact Or.inl ⟨isQuestion, shows⟩
  · exact Or.inr (hasOverlayFor_iff.mpr ⟨other, below, isQuestion, shows⟩)

theorem hasOverlayFor_openQuestion {other : String}
    (has : (shell.openQuestion other).hasOverlayFor id = true) :
    id = other ∨ shell.hasOverlayFor id = true := by
  rw [openQuestion_eq] at has
  split at has
  · exact Or.inr has
  · exact (hasOverlayFor_cons has).imp_left fun own => (Option.some_inj.mp own.2).symm

/-- A shift opens no overlay but that of the question that has waited longest. -/
theorem hasOverlayFor_of_shift (shift : Shift shell later) (has : later.hasOverlayFor id = true) :
    shell.hasOverlayFor id = true ∨ shell.FrontIs id := by
  cases shift with
  | visits view =>
    rw [hasOverlayFor, overlays_pushView] at has
    exact Or.inl has
  | lifts kept below =>
    obtain ⟨overlay, member, rest⟩ := hasOverlayFor_iff.mp has
    exact Or.inl (hasOverlayFor_iff.mpr ⟨overlay, below.subset member, rest⟩)
  | lays overlay own _ =>
    have other : overlay.kind ≠ Overlay.questionKind := by
      rcases own with rfl | rfl <;> decide
    unfold pushOverlay at has
    split at has
    · exact Or.inl has
    · exact Or.inl ((hasOverlayFor_cons has).resolve_left fun isQuestion => other isQuestion.1)
  | shows front rest next =>
    refine (hasOverlayFor_openQuestion has).symm.imp_right ?_
    rintro rfl
    exact frontIs_of_questions next
  | _ => exact Or.inl has

theorem hasOverlayFor_of_edit (edit : Edit shell later) (has : later.hasOverlayFor id = true) :
    shell.hasOverlayFor id = true ∨ shell.FrontIs id := by
  cases edit with
  | shifts later shift => exact hasOverlayFor_of_shift shift has
  | _ => exact Or.inl has

/-! ### Showing the first question only -/

/-- Of the waiting questions only the one that has waited longest is shown, and the composer is
its own. -/
structure FrontOnly (shell : Shell Picture) : Prop where
  shown : ∀ id, shell.hasOverlayFor id = true → shell.isQueued id = true → shell.FrontIs id
  entered : ∀ composer ∈ shell.composer, shell.FrontIs composer.questionId

namespace FrontOnly

theorem frontIs_of_topQuestion? (frontOnly : shell.FrontOnly) {question : Question}
    (onTop : shell.topQuestion? = some question) : shell.FrontIs question.id := by
  obtain ⟨top, below, stack, isQuestion, shows⟩ := overlays_of_topQuestion? onTop
  have member : top ∈ shell.overlays := stack ▸ List.mem_cons_self
  exact frontOnly.shown question.id (hasOverlayFor_iff.mpr ⟨top, member, isQuestion, shows⟩)
    (isQueued_of_mem (mem_of_topQuestion? onTop))

theorem openQuestion (frontOnly : shell.FrontOnly) (front : shell.FrontIs id) :
    (shell.openQuestion id).FrontOnly := by
  have questions := congrArg Prod.fst (queue_openQuestion shell id)
  refine ⟨fun other has isQueued => ?_, fun composer isComposer => ?_⟩
  · rw [isQueued_congr questions] at isQueued
    refine FrontIs.congr ?_ questions
    rcases hasOverlayFor_openQuestion has with rfl | has
    · exact front
    · exact frontOnly.shown other has isQueued
  · refine FrontIs.congr ?_ questions
    rw [openQuestion_eq] at isComposer
    split at isComposer
    · exact frontOnly.entered composer isComposer
    · cases isComposer
      rw [questionId_composerFor]
      exact front

/-- The composer turns to the question that has waited longest. -/
theorem withComposer (frontOnly : shell.FrontOnly) {composer : Composer}
    (front : shell.FrontIs composer.questionId) :
    ({ shell with composer := some composer } : Shell Picture).FrontOnly := by
  refine { frontOnly with entered := ?_ }
  rintro _ ⟨⟩
  exact front

theorem entered_edit (edit : Edit shell later) (frontOnly : shell.FrontOnly) :
    ∀ composer ∈ later.composer, later.FrontIs composer.questionId := by
  cases edit with
  | shifts later shift =>
    intro composer isComposer
    have follows := follows_shift shift
    refine FrontIs.congr ?_ follows.questions
    rcases follows.composer with same | ⟨front, rest, next, turned⟩
    · exact frontOnly.entered composer (same ▸ isComposer)
    · obtain rfl := Option.some_inj.mp (turned.symm.trans isComposer)
      rw [questionId_composerFor]
      exact frontIs_of_questions next
  | composes question onTop key =>
    refine (frontOnly.withComposer ?_).entered
    rw [Composer.questionId_press, questionId_composerFor]
    exact frontOnly.frontIs_of_topQuestion? onTop
  | removes id =>
    intro composer isComposer
    obtain ⟨wasComposer, remains⟩ := Option.filter_eq_some_iff.mp isComposer
    exact (frontOnly.entered composer wasComposer).removeQuestion (bne_iff_ne.mp remains)

theorem edit (edit : Edit shell later) (frontOnly : shell.FrontOnly) : later.FrontOnly := by
  refine ⟨fun id has isQueued => FrontIs.edit ?_ edit isQueued, frontOnly.entered_edit edit⟩
  rcases hasOverlayFor_of_edit edit has with has | front
  · exact frontOnly.shown id has (isQueued_of_edit edit isQueued)
  · exact front

end FrontOnly

/-! ### Overlays that come back -/

/-- A question is asked while others wait, and an overlay with its id is on the stack. -/
def Revives (shell : Shell Picture) (question : Question) : Prop :=
  shell.quitting = false ∧ shell.isQueued question.id = false ∧ shell.questions ≠ [] ∧
    shell.hasOverlayFor question.id = true

/-- No overlay comes back with this notice. -/
def Dormant (shell : Shell Picture) (notice : Notice) : Prop :=
  ∀ question, notice = .event (.asked question) → ¬shell.Revives question

/-- Unless all overlays stay dormant, some question brings one back. -/
theorem exists_revives {notices : List Notice} (wakes : ¬Throughout Dormant shell notices) :
    ∃ passed question, passed ++ [.event (.asked question)] <+: notices ∧
      (shell.hearAll passed).Revives question := by
  obtain ⟨passed, notice, begins, awake⟩ := exists_of_not_throughout wakes
  refine Classical.byContradiction fun never => awake ?_
  rintro question rfl revives
  exact never ⟨passed, question, begins, revives⟩

/-- If an answer is refused, it was given to the question that has waited longest. -/
def RefusesFront (shell : Shell Picture) (notice : Notice) : Prop :=
  ∀ id reason, notice = .event (.rejected id reason) → shell.FrontIs id

namespace FrontOnly

theorem enqueue (frontOnly : shell.FrontOnly) {question : Question}
    (apart : shell.questions ≠ [] → ¬shell.hasOverlayFor question.id = true) :
    (shell.enqueue question).FrontOnly := by
  refine ⟨fun id has isQueued => ?_, fun composer isComposer =>
    (frontOnly.entered composer isComposer).enqueue question⟩
  obtain ⟨other, member, rfl⟩ := isQueued_iff.mp isQueued
  rcases List.mem_append.mp member with member | isLast
  · exact (frontOnly.shown other.id has (isQueued_of_mem member)).enqueue question
  · -- The overlay shows the new question, so nothing else waits.
    obtain rfl := List.mem_singleton.mp isLast
    have alone : shell.questions = [] :=
      Classical.byContradiction fun others => apart others has
    have joins : (shell.enqueue other).questions = [other] := by
      show shell.questions ++ [other] = [other]
      rw [alone, List.nil_append]
    exact frontIs_of_questions joins

theorem update (frontOnly : shell.FrontOnly) {event : Event}
    (dormant : shell.Dormant (.event event)) (refusesFront : shell.RefusesFront (.event event)) :
    (shell.update event).1.FrontOnly := by
  by_cases quit : shell.quitting = true
  · rw [update_of_quitting quit]
    exact frontOnly
  have going : shell.quitting = false := Bool.eq_false_iff.mpr quit
  have heeds := heeds_update shell event
  generalize (shell.update event).1 = later at heeds
  cases heeds with
  | edits _ _ edits => exact edits.keep FrontOnly.edit frontOnly
  | asked question isNew =>
    exact (shifts_surface _).edits.keep FrontOnly.edit
      (frontOnly.enqueue fun others has => dormant question rfl ⟨going, isNew, others, has⟩)
  | rejected id reason _ =>
    have front : shell.FrontIs id := refusesFront id reason rfl
    have blamed : (shell.blame id reason).FrontOnly := by
      refine { frontOnly with entered := ?_ }
      rintro _ ⟨⟩
      rw [questionId_composerFor]
      exact front
    exact blamed.openQuestion front

theorem hear (frontOnly : shell.FrontOnly) {notice : Notice} (dormant : shell.Dormant notice)
    (refusesFront : shell.RefusesFront notice) : (shell.hear notice).FrontOnly := by
  cases notice with
  | event event => exact frontOnly.update dormant refusesFront
  | status text => exact { frontOnly with }

theorem hearAll (frontOnly : shell.FrontOnly) {notices : List Notice}
    (dormant : Throughout Dormant shell notices)
    (refusesFront : Throughout RefusesFront shell notices) :
    (shell.hearAll notices).FrontOnly := by
  induction notices generalizing shell with
  | nil => exact frontOnly
  | cons notice rest inductionHypothesis =>
    exact inductionHypothesis (frontOnly.hear dormant.1 refusesFront.1) dormant.2 refusesFront.2

end FrontOnly

/-- While the first question waits, it remains the first. -/
theorem FrontIs.hear {notice : Notice} (front : shell.FrontIs id)
    (stays : (shell.hear notice).isQueued id = true) : (shell.hear notice).FrontIs id := by
  cases notice with
  | status text => exact front
  | event event =>
    have heeds := heeds_update shell event
    show (shell.update event).1.FrontIs id
    change (shell.update event).1.isQueued id = true at stays
    generalize (shell.update event).1 = later at heeds stays
    cases heeds with
    | edits _ _ edits => exact front.edits edits stays
    | asked question _ =>
      exact (front.enqueue question).congr (congrArg Prod.fst (queue_surface _))
    | rejected other reason _ =>
      exact front.congr (congrArg Prod.fst (queue_openQuestion (shell.blame other reason) other))

/-- Where only the first question is shown before and after, no composer is displaced. -/
theorem FrontOnly.not_displaces (frontOnly : shell.FrontOnly) {notice : Notice}
    (remains : (shell.hear notice).FrontOnly) (stays : (shell.hear notice).isQueued id = true) :
    ¬shell.Displaces id notice := by
  rintro ⟨⟨composer, isComposer, rfl⟩, uses | ⟨other, isOther, different⟩⟩
  · obtain ⟨-, -, question, onTop, different⟩ := uses
    have front := frontOnly.frontIs_of_topQuestion? onTop
    exact different (front.unique (frontOnly.entered composer isComposer))
  · have front := (frontOnly.entered composer isComposer).hear stays
    exact different ((remains.entered other isOther).unique front)

/-- Where only the first question is ever shown, no composer of a resting question is displaced. -/
theorem throughout_not_displaces {notices : List Notice}
    (frontOnly : ∀ passed, passed <+: notices → (shell.hearAll passed).FrontOnly)
    (rests : shell.Rests id notices) :
    Throughout (fun shell notice => ¬shell.Displaces id notice) shell notices := by
  induction notices generalizing shell with
  | nil => trivial
  | cons notice rest inductionHypothesis =>
    have remains : (shell.hear notice).FrontOnly :=
      frontOnly [notice] (List.prefix_append [notice] rest)
    refine ⟨(frontOnly [] List.nil_prefix).not_displaces remains rests.2.2.isQueued, ?_⟩
    refine inductionHypothesis (fun passed begins => ?_) rests.2.2
    exact frontOnly (notice :: passed) (List.cons_prefix_cons.mpr ⟨rfl, begins⟩)

/-! ### Questions that were asked -/

/-- Every question that waits, or has an overlay on the stack, is one of those that were asked. -/
structure Grounded (asked : String → Prop) (shell : Shell Picture) : Prop where
  queued : ∀ question ∈ shell.questions, asked question.id
  shown : ∀ id, shell.hasOverlayFor id = true → asked id

/-- A question with this id was asked. -/
def AskedIn (notices : List Notice) (id : String) : Prop :=
  ∃ question, .event (.asked question) ∈ notices ∧ question.id = id

namespace Grounded

variable {asked : String → Prop}

theorem frontIs (grounded : Grounded asked shell) (front : shell.FrontIs id) : asked id := by
  obtain ⟨question, rest, next, rfl⟩ := front.exists_questions
  exact grounded.queued question (next ▸ List.mem_cons_self)

theorem edit (edit : Edit shell later) (grounded : Grounded asked shell) :
    Grounded asked later where
  queued := fun question member => grounded.queued question (mem_of_edit edit member)
  shown := fun id has => (hasOverlayFor_of_edit edit has).elim (grounded.shown id) grounded.frontIs

theorem openQuestion (grounded : Grounded asked shell) (wasAsked : asked id) :
    Grounded asked (shell.openQuestion id) := by
  have questions : (shell.openQuestion id).questions = shell.questions :=
    congrArg Prod.fst (queue_openQuestion shell id)
  refine ⟨fun question member => grounded.queued question (questions ▸ member),
    fun other has => ?_⟩
  rcases hasOverlayFor_openQuestion has with rfl | has
  · exact wasAsked
  · exact grounded.shown other has

theorem enqueue (grounded : Grounded asked shell) {question : Question}
    (wasAsked : asked question.id) : Grounded asked (shell.enqueue question) := by
  refine ⟨fun other member => ?_, grounded.shown⟩
  rcases List.mem_append.mp member with member | isLast
  · exact grounded.queued other member
  · exact List.mem_singleton.mp isLast ▸ wasAsked

theorem hear (grounded : Grounded asked shell) {notice : Notice}
    (isAsked : ∀ question, notice = .event (.asked question) → asked question.id) :
    Grounded asked (shell.hear notice) := by
  cases notice with
  | status text => exact { grounded with }
  | event event =>
    have heeds := heeds_update shell event
    show Grounded asked (shell.update event).1
    generalize (shell.update event).1 = later at heeds
    cases heeds with
    | edits _ _ edits => exact edits.keep Grounded.edit grounded
    | asked question _ =>
      exact (shifts_surface _).edits.keep Grounded.edit (grounded.enqueue (isAsked question rfl))
    | rejected id reason isQueued =>
      obtain ⟨question, member, rfl⟩ := isQueued_iff.mp isQueued
      have blamed : Grounded asked (shell.blame question.id reason) := { grounded with }
      exact blamed.openQuestion (grounded.queued question member)

theorem hearAll (grounded : Grounded asked shell) {notices : List Notice}
    (areAsked : ∀ id, AskedIn notices id → asked id) :
    Grounded asked (shell.hearAll notices) := by
  induction notices generalizing shell with
  | nil => exact grounded
  | cons notice rest inductionHypothesis =>
    refine inductionHypothesis (grounded.hear ?_) fun id inRest => areAsked id ?_
    · rintro question rfl
      exact areAsked question.id ⟨question, List.mem_cons_self, rfl⟩
    · obtain ⟨question, member, own⟩ := inRest
      exact ⟨question, List.mem_cons_of_mem _ member, own⟩

end Grounded

/-- An overlay that comes back belongs to a question that was asked before. -/
theorem askedIn_of_revives (empty : shell.overlays = []) (nobody : shell.questions = [])
    {notices : List Notice} {question : Question}
    (revives : (shell.hearAll notices).Revives question) : AskedIn notices question.id := by
  have grounded : Grounded (AskedIn notices) shell := by
    refine ⟨fun other member => ?_, fun id has => ?_⟩
    · rw [nobody] at member
      cases member
    · rw [hasOverlayFor, empty] at has
      cases has
  exact (grounded.hearAll fun _ isAsked => isAsked).shown question.id revives.2.2.2

end OperatorDesk.Shell
