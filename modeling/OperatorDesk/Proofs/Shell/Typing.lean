/-
This file says that typing is isolated. While a draft is being typed, every character goes into it,
whatever it means otherwise: the shell asks for nothing, and nothing of it changes but the draft.
Each character is appended, and each Backspace takes the last one away if there is one.
-/

import OperatorDesk.Proofs.Shell.Acting
import OperatorDesk.Proofs.Shell.Quitting
import OperatorDesk.Proofs.Shell.Showing
import OperatorDesk.Shell.Run

namespace OperatorDesk

/-! ### Keystrokes -/

/-- A key that writes. -/
inductive Keystroke where
  | letter (c : Char)
  | erasure
  deriving DecidableEq, Repr

namespace Keystroke

/-- The key. -/
def key : Keystroke → Key
  | letter c => .char c
  | erasure => .backspace

/-- What a keystroke makes of the characters written so far. -/
def applyTo (written : List Char) : Keystroke → List Char
  | letter c => written ++ [c]
  | erasure => written.dropLast

end Keystroke

namespace Composer

/-- The composer after some keystrokes. -/
def typed (composer : Composer) (strokes : List Keystroke) : Composer :=
  { composer with
    draft := String.ofList (strokes.foldl Keystroke.applyTo composer.draft.toList) }

theorem typed_nil (composer : Composer) : composer.typed [] = composer := by
  rw [typed, List.foldl_nil, String.ofList_toList]

theorem typed_cons (composer : Composer) (stroke : Keystroke) (rest : List Keystroke) :
    (composer.typed [stroke]).typed rest = composer.typed (stroke :: rest) := by
  simp only [typed, List.foldl_cons, List.foldl_nil, String.toList_ofList]

/-- A keystroke goes into the draft that is being typed, and is used up. -/
theorem press_keystroke {composer : Composer} (editing : composer.editing = true)
    (question : Question) (stroke : Keystroke) :
    composer.press question stroke.key = (composer.typed [stroke], .handled) := by
  have pressed : composer.press question stroke.key = composer.pressEditing stroke.key :=
    if_pos editing
  rw [pressed]
  cases stroke with
  | letter c =>
    have appended : composer.draft.push c = String.ofList (composer.draft.toList ++ [c]) := by
      rw [← String.toList_push, String.ofList_toList]
    show ({ composer with draft := composer.draft.push c }, Composed.handled) = _
    rw [appended]
    rfl
  | erasure => rfl

end Composer

namespace Shell

variable {Picture : Type} {shell : Shell Picture}

/-! ### A shell whose draft is being typed -/

/-- The overlay on top shows a waiting question, whose draft is being typed. -/
structure Drafts (shell : Shell Picture) (question : Question) (composer : Composer) : Prop where
  going : shell.quitting = false
  onTop : shell.topQuestion? = some question
  kept : shell.composer = some composer
  own : composer.questionId = question.id
  editing : composer.editing = true

/-- The waiting question that is shown is the one on top. -/
theorem exists_topQuestion? {top : Overlay} {below : List Overlay}
    (stack : shell.overlays = top :: below) (isQuestion : top.kind = Overlay.questionKind)
    {id : String} (shows : top.payload = some id) (isQueued : shell.isQueued id = true) :
    ∃ question, shell.topQuestion? = some question ∧ question.id = id := by
  have found : (shell.queued? id).isSome = true := by
    rw [queued?, List.find?_isSome]
    obtain ⟨question, member, isId⟩ := isQueued_iff.mp isQueued
    exact ⟨question, member, beq_iff_eq.mpr isId⟩
  obtain ⟨question, isQuestionOf⟩ := Option.isSome_iff_exists.mp found
  refine ⟨question, ?_, beq_iff_eq.mp (List.find?_some isQuestionOf :)⟩
  rw [topQuestion?, stack]
  simp only [isQuestion, if_true, shows, Option.bind_some, isQuestionOf]

/-- One keystroke changes the draft, and nothing else. -/
theorem Drafts.update {question : Question} {composer : Composer}
    (drafts : shell.Drafts question composer) (stroke : Keystroke) :
    shell.update (.key stroke.key) =
      ({ shell with composer := some (composer.typed [stroke]) }, none) := by
  rw [update_key drafts.going, press_of_topQuestion? drafts.onTop, ← drafts.own,
    composerFor_of_own drafts.kept, Composer.press_keystroke drafts.editing]
  rfl

/-- The draft goes on being typed after a keystroke. -/
theorem Drafts.typed {question : Question} {composer : Composer}
    (drafts : shell.Drafts question composer) (strokes : List Keystroke) :
    Drafts { shell with composer := some (composer.typed strokes) } question
      (composer.typed strokes) where
  going := drafts.going
  onTop := drafts.onTop
  kept := rfl
  own := drafts.own
  editing := drafts.editing

/-- The events of some keystrokes. -/
def typing (strokes : List Keystroke) : List Event :=
  strokes.map fun stroke => .key stroke.key

theorem Drafts.updateAll {question : Question} {composer : Composer}
    (drafts : shell.Drafts question composer) (strokes : List Keystroke) :
    shell.updateAll (typing strokes) =
      ({ shell with composer := some (composer.typed strokes) }, []) := by
  induction strokes generalizing shell composer with
  | nil =>
    rw [Composer.typed_nil, ← drafts.kept]
    rfl
  | cons stroke rest inductionHypothesis =>
    have later := inductionHypothesis (drafts.typed [stroke])
    rw [typing, List.map_cons, ← typing, updateAll_cons, drafts.update stroke, later,
      Composer.typed_cons]
    rfl

/-- However much is typed, the shell asks for nothing. The draft takes the characters one by one,
shortcuts included, and all else of the shell stays as it is. -/
theorem typing_is_isolated (going : shell.quitting = false) {top : Overlay}
    {below : List Overlay} (stack : shell.overlays = top :: below)
    (isQuestion : top.kind = Overlay.questionKind) {composer : Composer}
    (shows : top.payload = some composer.questionId)
    (waits : shell.isQueued composer.questionId = true) (kept : shell.composer = some composer)
    (editing : composer.editing = true) (strokes : List Keystroke) :
    shell.updateAll (typing strokes) =
      ({ shell with
          composer := some { composer with
            draft := String.ofList (strokes.foldl Keystroke.applyTo composer.draft.toList) } },
        []) := by
  obtain ⟨question, onTop, isId⟩ := exists_topQuestion? stack isQuestion shows waits
  have drafts : shell.Drafts question composer := ⟨going, onTop, kept, isId.symm, editing⟩
  exact drafts.updateAll strokes

/-- The operator types an answer to a question that waits before another. -/
def answering : List (Operation Unit) :=
  [.update (.asked { Question.plain "Q-1" "Which name?" with allowsFreeText := true }),
    .update (.asked (.plain "Q-2" "Which store?")), .update (.key (.char 'i')),
    .update (.key (.char 'x'))]

/-- Characters that are shortcuts elsewhere are written, and so is a letter that takes two of the
bytes of the draft and is erased as one. -/
theorem typing_is_isolated_shortcuts :
    ((start "fleet").run answering).updateAll
        (typing [.letter 'q', .letter '?', .letter 'é', .erasure, .letter 'a', .letter '1']) =
      ({ (start "fleet").run answering with
          composer := some { Composer.fresh "Q-1" with editing := true, draft := "xq?a1" } },
        []) := by
  have stack : ((start "fleet").run answering).overlays = [.question "Q-1"] := by decide
  have kept : ((start "fleet").run answering).composer =
      some { Composer.fresh "Q-1" with editing := true, draft := "x" } := by decide
  exact typing_is_isolated (by decide) stack rfl rfl (by decide) kept rfl
    [.letter 'q', .letter '?', .letter 'é', .erasure, .letter 'a', .letter '1']

end Shell

end OperatorDesk
