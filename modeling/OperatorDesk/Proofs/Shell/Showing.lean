/-
This file says when an overlay shows a question that still waits, and how this depends on the queue:
what shows a waiting question goes on doing so while the question is queued.
-/

import OperatorDesk.Proofs.Shell.Queue

namespace OperatorDesk.Shell

variable {Picture : Type} {shell later : Shell Picture}

/-! ### What is queued -/

theorem isQueued_iff {id : String} :
    shell.isQueued id = true ↔ ∃ question ∈ shell.questions, question.id = id := by
  simp only [isQueued, List.any_eq_true, beq_iff_eq]

theorem isQueued_of_mem {question : Question} (member : question ∈ shell.questions) :
    shell.isQueued question.id = true :=
  isQueued_iff.mpr ⟨question, member, rfl⟩

theorem isQueued_front {front : Question} {rest : List Question}
    (next : shell.questions = front :: rest) : shell.isQueued front.id = true :=
  isQueued_of_mem (next ▸ List.mem_cons_self)

theorem isQueued_congr (questions : later.questions = shell.questions) :
    later.isQueued = shell.isQueued := by
  funext id
  rw [isQueued, questions]
  rfl

theorem mem_of_topQuestion? {question : Question} (onTop : shell.topQuestion? = some question) :
    question ∈ shell.questions :=
  List.mem_of_find?_eq_some (queued?_of_topQuestion? onTop)

theorem isQueued_removeQuestion {id other : String} :
    (shell.removeQuestion id).isQueued other = true ↔ shell.isQueued other = true ∧ other ≠ id := by
  simp only [isQueued_iff, removeQuestion, List.mem_filter, bne_iff_ne]
  constructor
  · rintro ⟨question, ⟨member, different⟩, rfl⟩
    exact ⟨⟨question, member, rfl⟩, different⟩
  · rintro ⟨⟨question, member, rfl⟩, different⟩
    exact ⟨question, ⟨member, different⟩, rfl⟩

theorem questions_removeQuestion_of_absent {id : String} (absent : shell.isQueued id = false) :
    (shell.removeQuestion id).questions = shell.questions := by
  refine List.filter_eq_self.mpr fun question member => bne_iff_ne.mpr ?_
  rintro rfl
  exact Bool.false_ne_true (absent.symm.trans (isQueued_of_mem member))

/-! ### What overlays show -/

theorem isLive_iff {overlay : Overlay} : shell.isLive overlay = true ↔
    overlay.kind = Overlay.questionKind ∧
      ∃ id, overlay.payload = some id ∧ shell.isQueued id = true := by
  simp only [isLive, Bool.and_eq_true, beq_iff_eq, Option.any_eq_true]

theorem isStale_eq_false_iff {overlay : Overlay} : shell.isStale overlay = false ↔
    (overlay.kind = Overlay.questionKind → shell.isLive overlay = true) := by
  simp only [isStale, Bool.and_eq_false_imp, beq_iff_eq, Bool.not_eq_false']

theorem isLive_question {id : String} (isQueued : shell.isQueued id = true) :
    shell.isLive (.question id) = true :=
  isLive_iff.mpr ⟨rfl, id, rfl, isQueued⟩

/-- An overlay goes on showing its question while the question is queued. -/
theorem isLive_of_isQueued {overlay : Overlay} (live : shell.isLive overlay = true)
    (stays : ∀ id, shell.isQueued id = true → later.isQueued id = true) :
    later.isLive overlay = true := by
  obtain ⟨isQuestion, id, shows, isQueued⟩ := isLive_iff.mp live
  exact isLive_iff.mpr ⟨isQuestion, id, shows, stays id isQueued⟩

theorem isLive_congr (questions : later.questions = shell.questions) :
    later.isLive = shell.isLive := by
  funext overlay
  rw [isLive, isQueued_congr questions]
  rfl

theorem isStale_congr (questions : later.questions = shell.questions) :
    later.isStale = shell.isStale := by
  funext overlay
  rw [isStale, isLive_congr questions]
  rfl

theorem hasOverlayFor_iff {id : String} : shell.hasOverlayFor id = true ↔
    ∃ overlay ∈ shell.overlays,
      overlay.kind = Overlay.questionKind ∧ overlay.payload = some id := by
  simp only [hasOverlayFor, List.any_eq_true, Bool.and_eq_true, beq_iff_eq]

theorem showsQuestion_iff :
    shell.showsQuestion = true ↔ ∃ overlay ∈ shell.overlays, shell.isLive overlay = true :=
  List.any_eq_true

/-- The question on top is the one that the overlay on top shows. -/
theorem overlays_of_topQuestion? {question : Question}
    (onTop : shell.topQuestion? = some question) : ∃ top below, shell.overlays = top :: below ∧
      top.kind = Overlay.questionKind ∧ top.payload = some question.id := by
  unfold topQuestion? at onTop
  split at onTop
  · cases onTop
  · next top below stack =>
    split at onTop
    · next isQuestion =>
      obtain ⟨id, shows, isQueued⟩ := Option.bind_eq_some_iff.mp onTop
      have sameId : question.id = id :=
        beq_iff_eq.mp (List.find?_some (p := fun question : Question => question.id == id) isQueued)
      exact ⟨top, below, stack, isQuestion, sameId ▸ shows⟩
    · cases onTop

/-! ### Opening an overlay -/

/-- The overlay of a question is laid on top, unless it is on the stack. -/
theorem openQuestion_eq (shell : Shell Picture) (id : String) :
    shell.openQuestion id =
      if shell.hasOverlayFor id then shell
      else { shell with
        composer := some (shell.composerFor id)
        overlays := .question id :: shell.overlays } := by
  unfold openQuestion
  split
  · rfl
  · have hasKind : ¬Overlay.questionKind.isEmpty = true := by decide
    exact if_neg hasKind

theorem overlays_pushView (shell : Shell Picture) (id : String) :
    (shell.pushView id).overlays = shell.overlays := by
  unfold pushView
  split
  · rfl
  · split <;> rfl

end OperatorDesk.Shell
