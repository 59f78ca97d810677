/-
This file says which answers a composer hands over: a declared option, the draft while it is being
typed, or a skip, each with the broadcast mark as it stands. If what has been entered is possible
for the question, the question has nothing against such an answer but that it may be blank.
-/

import OperatorDesk.Answer.Refusal
import OperatorDesk.Proofs.Shell.Composing
import OperatorDesk.Proofs.Text.Trimming

namespace OperatorDesk

namespace Composer

variable {composer : Composer} {question : Question} {response : Response}

/-! ### What is handed over -/

/-- The responses that a key can hand over. -/
inductive Offers (composer : Composer) (question : Question) : Response → Prop where
  | option (option : String) (declared : option ∈ question.options) :
    Offers composer question (.selected option)
  | draft (editing : composer.editing = true) :
    Offers composer question (.freeText (Text.trim composer.draft))
  | skip : Offers composer question .skip

/-- If an answer is handed over, it carries one of these responses. -/
def HandsOver (composer : Composer) (question : Question) (result : Composer × Composed) : Prop :=
  ∀ answer, result.2 = .submit answer →
    ∃ response, composer.Offers question response ∧ answer = composer.answerWith response

theorem handsOver_commit (offers : composer.Offers question response) :
    composer.HandsOver question (composer.commit response) := by
  intro answer sends
  cases sends
  exact ⟨response, offers, rfl⟩

theorem handsOver_pick? {index : Nat} {result : Composer × Composed}
    (picks : composer.pick? question index = some result) :
    composer.HandsOver question result := by
  obtain ⟨option, found, rfl⟩ := Option.map_eq_some_iff.mp picks
  exact handsOver_commit (.option option (List.mem_of_getElem? found))

theorem handsOver_startEditing (composer : Composer) (question : Question) :
    composer.HandsOver question (composer.startEditing question) := by
  unfold startEditing
  split <;> exact nofun

theorem handsOver_pressEditing (editing : composer.editing = true) (key : Key) :
    composer.HandsOver question (composer.pressEditing key) := by
  cases key with
  | enter => exact handsOver_commit (.draft editing)
  | _ => exact nofun

theorem handsOver_pressEnter (composer : Composer) (question : Question) :
    composer.HandsOver question (composer.pressEnter question) := by
  unfold pressEnter
  split
  · next picks => exact handsOver_pick? picks
  · split
    · exact handsOver_startEditing composer question
    · exact nofun

theorem handsOver_pressDigit (composer : Composer) (question : Question) (digit : Char) :
    composer.HandsOver question (composer.pressDigit question digit) := by
  unfold pressDigit
  simp only
  split
  · next picks =>
    intro answer sends
    obtain ⟨option, found, rfl⟩ := Option.map_eq_some_iff.mp picks
    cases sends
    exact ⟨_, .option option (List.mem_of_getElem? found), rfl⟩
  · exact nofun

theorem handsOver_pressChar (composer : Composer) (question : Question) (c : Char) :
    composer.HandsOver question (composer.pressChar question c) := by
  unfold pressChar
  split
  · exact nofun
  split
  · exact nofun
  split
  · exact handsOver_pressDigit composer question c
  split
  · exact handsOver_commit .skip
  split
  · unfold toggleBroadcast
    split <;> exact nofun
  split
  · exact handsOver_startEditing composer question
  · exact nofun

/-- Whatever key is pressed, an answer that is handed over is one of these. -/
theorem handsOver_press (composer : Composer) (question : Question) (key : Key) :
    composer.HandsOver question (composer.press question key) := by
  unfold press
  cases editing : composer.editing with
  | true => exact handsOver_pressEditing editing key
  | false =>
    cases key with
    | up => exact handsOver_pressChar composer question 'k'
    | down => exact handsOver_pressChar composer question 'j'
    | char c => exact handsOver_pressChar composer question c
    | enter => exact handsOver_pressEnter composer question
    | _ => exact nofun

/-- An answer goes to the composer's question. -/
theorem addressed_press (composer : Composer) (question : Question) (key : Key) (answer : Answer)
    (sends : (composer.press question key).2 = .submit answer) :
    answer.questionId = composer.questionId := by
  obtain ⟨response, -, rfl⟩ := handsOver_press composer question key answer sends
  rfl

end Composer

/-! ### What the question has against it -/

namespace Question

/-- The question has nothing against the answer, or only that its free text is blank, or that the
declared option that it selects is blank. -/
def RefusesOnlyBlanks (question : Question) (answer : Answer) : Prop :=
  ∀ refusal, question.refusal? answer = some refusal →
    (refusal = .emptyFreeText question.id ∧
      ∃ text, answer.response = .freeText text ∧ Text.isBlankText text = true) ∨
    (refusal = .emptySelection question.id ∧
      ∃ option ∈ question.options,
        answer.response = .selected option ∧ Text.isBlankText option = true)

/-- A declared option is found whatever blanks are around it. -/
theorem isSome_findOption? {question : Question} {option : String}
    (declared : option ∈ question.options) :
    (question.findOption? (Text.trim option)).isSome = true :=
  List.find?_isSome.mpr ⟨option, declared, Text.sameWords_trim option⟩

/-- Only a blank option is refused among those that are declared. -/
theorem responseRefusal?_of_declared {question : Question} {option : String}
    (declared : option ∈ question.options) : question.responseRefusal? (.selected option) =
      if Text.isBlankText option then some (.emptySelection question.id) else none := by
  have isFound : (namesSkip (Text.trim option) ||
      (question.findOption? (Text.trim option)).isSome) = true := by
    rw [isSome_findOption? declared, Bool.or_true]
  simp only [responseRefusal?, Text.isEmpty_trim_iff, isFound, if_true]

end Question

/-- What can be handed over when the entries fit the question is refused at most as blank. -/
theorem Composer.Offers.refusesOnlyBlanks {composer : Composer} {question : Question}
    {response : Response} (offers : composer.Offers question response)
    (fits : composer.Fits question) :
    question.RefusesOnlyBlanks (composer.answerWith response) := by
  have mayBroadcast : question.broadcastRefusal? composer.broadcast = none := by
    refine if_neg fun faulty => ?_
    obtain ⟨marked, forbidden⟩ := Bool.and_eq_true_iff.mp faulty
    rw [fits.broadcast marked] at forbidden
    cases forbidden
  intro refusal refused
  have atFault : question.responseRefusal? response = some refusal := by
    rwa [Question.refusal?, answerWith, mayBroadcast, Option.or_none] at refused
  cases offers with
  | skip => cases atFault
  | option option declared =>
    rw [Question.responseRefusal?_of_declared declared, Option.ite_none_right_eq_some] at atFault
    exact Or.inr ⟨(Option.some_inj.mp atFault.2).symm, option, declared, rfl, atFault.1⟩
  | draft editing =>
    simp only [Question.responseRefusal?, fits.editing editing, Bool.not_true, Bool.false_eq_true,
      if_false, Text.isEmpty_trim_iff, Option.ite_none_right_eq_some] at atFault
    exact Or.inl ⟨(Option.some_inj.mp atFault.2).symm, _, rfl, atFault.1⟩

end OperatorDesk
