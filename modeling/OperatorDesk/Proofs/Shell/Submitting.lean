/-
This file says which answers a shell hands over. They are answers to the question that is on top of
everything else, which stays in the queue until the verdict; and whatever was done to the shell
before, that question has nothing against the answer but that it may be blank.
-/

import OperatorDesk.Proofs.Shell.Acting
import OperatorDesk.Proofs.Shell.Coherence

namespace OperatorDesk.Shell

variable {Picture : Type} {shell : Shell Picture} {event : Event} {answer : Answer}

/-- An answer comes from the composer of the question on top, in reply to a key. -/
theorem exists_of_submits (sends : (shell.update event).2 = some (.submit answer)) :
    ∃ key question composer, event = .key key ∧ shell.quitting = false ∧
      shell.topQuestion? = some question ∧ answer.questionId = question.id ∧
      (shell.composerFor question.id).press question key = (composer, .submit answer) ∧
      shell.update event = { shell with composer := some composer }.sendAnswer answer := by
  rcases update_cases shell event with ⟨key, rfl, going, presses⟩ | ⟨silent, -⟩
  · generalize shell.update (.key key) = result at presses sends
    cases presses with
    | nothing => cases sends
    | quit => cases sends
    | answer _ question composer answer onTop pressed =>
      cases sends
      exact ⟨key, question, composer, rfl, going, onTop, questionId_of_pressed pressed, pressed,
        rfl⟩
  · rw [silent] at sends
    cases sends

theorem queue_of_submits (sends : (shell.update event).2 = some (.submit answer)) :
    (shell.update event).1.queue = shell.queue := by
  obtain ⟨_, _, composer, -, -, -, -, -, updated⟩ := exists_of_submits sends
  rw [updated]
  exact queue_sendAnswer { shell with composer := some composer } answer

/-- Whatever is done to a shell, it hands an answer over only in reply to a key, and only to the
question that the overlay on top shows. That question waits, before and after, and would refuse the
answer only as blank: an unknown option, an unwelcome free text or a forbidden broadcast is never
handed over. -/
theorem only_shown_question_answered (root : String) (operations : List (Operation Picture))
    {shell : Shell Picture} (reached : (start root).run operations = shell) {event : Event}
    {answer : Answer} (sends : (shell.update event).2 = some (.submit answer)) :
    ∃ key top below question, event = .key key ∧ shell.overlays = top :: below ∧
      top.kind = Overlay.questionKind ∧ top.payload = some answer.questionId ∧
      shell.queued? answer.questionId = some question ∧
      (shell.update event).1.queued? answer.questionId = some question ∧
      question.RefusesOnlyBlanks answer := by
  have coherent : shell.Coherent root := reached ▸ coherent_run root operations
  obtain ⟨key, question, composer, isKey, -, onTop, addressed, pressed, -⟩ :=
    exists_of_submits sends
  obtain ⟨top, below, stack, isQuestion, shows⟩ := overlays_of_topQuestion? onTop
  have handed := Composer.handsOver_press (shell.composerFor question.id) question key answer
  rw [pressed] at handed
  obtain ⟨response, offers, rfl⟩ := handed rfl
  have waits := queued?_of_topQuestion? onTop
  have questions : (shell.update event).1.questions = shell.questions :=
    congrArg Prod.fst (queue_of_submits sends)
  rw [addressed]
  refine ⟨key, top, below, question, isKey, stack, isQuestion, shows, waits, ?_, ?_⟩
  · rw [queued?, questions]
    exact waits
  · exact offers.refusesOnlyBlanks (coherent.fits (mem_of_topQuestion? onTop))

/-- A question whose first option is blank, and to which a text can be typed as well. -/
def blankChoice : Question :=
  { Question.plain "Q-1" "Which store?" with options := [" ", "ours"], allowsFreeText := true }

/-- The operator opens the draft and types a blank. -/
def typingBlank : List (Operation Unit) :=
  [.update (.asked blankChoice), .update (.key (.char 'i')), .update (.key (.char ' '))]

/-- Sending the blank draft hands an answer over that the question refuses for just this. -/
theorem only_shown_question_answered_blank :
    ∃ answer question,
      (((start "fleet").run typingBlank).update (.key .enter)).2 = some (.submit answer) ∧
        ((start "fleet").run typingBlank).queued? answer.questionId = some question ∧
        question.refusal? answer = some (.emptyFreeText question.id) ∧
        question.RefusesOnlyBlanks answer := by
  let blank : Answer := { questionId := "Q-1", response := .freeText "", broadcast := false }
  have sends : (((start "fleet").run typingBlank).update (.key .enter)).2 =
      some (.submit blank) := by decide
  obtain ⟨_, _, _, question, -, -, -, -, waits, -, refuses⟩ :=
    only_shown_question_answered "fleet" typingBlank rfl sends
  have isFirst : ((start "fleet").run typingBlank).queued? "Q-1" = some blankChoice := by decide
  obtain rfl := Option.some_inj.mp (isFirst.symm.trans waits)
  exact ⟨blank, blankChoice, sends, waits, by decide, refuses⟩

end OperatorDesk.Shell
