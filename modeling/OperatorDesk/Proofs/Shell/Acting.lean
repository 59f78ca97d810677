/-
This file says what the shell asks for, and when. Only keys make it ask for anything: Enter, to
quit, if the question whether to quit is on top; and a key that goes to the composer of the question
on top, to deliver an answer, if the composer hands one over. No key changes the queue of questions,
and an answer is delivered to the question on top alone.
-/

import OperatorDesk.Proofs.Shell.Offering
import OperatorDesk.Proofs.Shell.Queue
import OperatorDesk.Terminal.Input

namespace OperatorDesk.Shell

variable {Picture : Type} {shell : Shell Picture}

/-! ### Keys and the composer -/

/-- What the shell makes of a key, once it knows what became of it at a composer. -/
def follow (shell : Shell Picture) (key : Key) :
    Composer × Composed → Shell Picture × Option Action
  | (composer, .ignored) => { shell with composer := some composer }.command key
  | (composer, .handled) => ({ shell with composer := some composer }, none)
  | (composer, .notice text) => ({ shell with composer := some composer }.setStatus text, none)
  | (composer, .submit answer) => { shell with composer := some composer }.sendAnswer answer

theorem press_of_no_question (nothing : shell.topQuestion? = none) (key : Key) :
    shell.press key = shell.command key := by
  unfold press
  rw [nothing]

theorem press_of_topQuestion? {question : Question} (onTop : shell.topQuestion? = some question)
    (key : Key) :
    shell.press key = shell.follow key ((shell.composerFor question.id).press question key) := by
  obtain ⟨composer, composed, pressed⟩ : ∃ composer composed,
      (shell.composerFor question.id).press question key = (composer, composed) := ⟨_, _, rfl⟩
  unfold press
  rw [onTop, pressed]
  simp only [pressed]
  cases composed <;> rfl

/-! ### Commands -/

/-- What a key makes the shell ask for if no composer uses it. -/
inductive Commands (shell : Shell Picture) : Key → Shell Picture × Option Action → Prop where
  | nothing (key : Key) (later : Shell Picture) (same : later.queue = shell.queue) :
    Commands shell key (later, none)
  | quit (later : Shell Picture) (confirms : shell.topIs Overlay.confirmQuitKind = true)
    (done : later.queue = (shell.questions, true)) : Commands shell .enter (later, some .quit)

theorem commands_goAhead (shell : Shell Picture) : Commands shell .enter shell.goAhead := by
  unfold goAhead
  split
  · next top below stack =>
    split
    · next isQuit =>
      have confirms : shell.topIs Overlay.confirmQuitKind = true := by
        rw [topIs, stack]
        exact beq_iff_eq.mpr isQuit
      exact .quit _ confirms rfl
    · exact .nothing _ _ (queue_settle shell.popOverlay.1)
  · split
    · exact .nothing _ _ (queue_pushView shell _)
    · exact .nothing _ _ rfl

theorem commands_command (shell : Shell Picture) (key : Key) :
    Commands shell key (shell.command key) := by
  unfold command
  split
  · exact .nothing _ _ (queue_cycleFocus shell true)
  · exact .nothing _ _ (queue_cycleFocus shell false)
  · exact .nothing _ _ (queue_goBack shell)
  · exact commands_goAhead shell
  · split
    · exact .nothing _ _ (queue_requestHelp shell)
    split
    · exact .nothing _ _ (queue_requestQuit shell)
    split
    · exact .nothing _ _ (queue_requestQuestion shell)
    · exact .nothing _ _ rfl
  · exact .nothing _ _ rfl

/-- Only the composer hands an answer over. -/
theorem submit_of_follow {key : Key} {result : Composer × Composed} {answer : Answer}
    (sends : (shell.follow key result).2 = some (.submit answer)) : result.2 = .submit answer := by
  obtain ⟨composer, composed⟩ := result
  cases composed with
  | ignored =>
    have commands := commands_command { shell with composer := some composer } key
    change ((({ shell with composer := some composer } : Shell Picture).command key).2 = _) at sends
    generalize ({ shell with composer := some composer } : Shell Picture).command key = commanded
      at commands sends
    cases commands <;> cases sends
  | handled => cases sends
  | notice text => cases sends
  | submit other => cases sends; rfl

/-! ### Keys -/

/-- What a key makes the shell ask for. -/
inductive Presses (shell : Shell Picture) : Key → Shell Picture × Option Action → Prop where
  | nothing (key : Key) (later : Shell Picture) (same : later.queue = shell.queue) :
    Presses shell key (later, none)
  | quit (later : Shell Picture) (confirms : shell.topIs Overlay.confirmQuitKind = true)
    (done : later.queue = (shell.questions, true)) : Presses shell .enter (later, some .quit)
  | answer (key : Key) (question : Question) (composer : Composer) (answer : Answer)
    (onTop : shell.topQuestion? = some question)
    (pressed : (shell.composerFor question.id).press question key = (composer, .submit answer)) :
    Presses shell key ({ shell with composer := some composer }.sendAnswer answer)

/-- What a command makes the shell ask for does not depend on the composer. -/
theorem Commands.presses {composer : Option Composer} {key : Key}
    {result : Shell Picture × Option Action}
    (commands : Commands { shell with composer } key result) : Presses shell key result := by
  cases commands with
  | nothing _ later same => exact .nothing key later same
  | quit later confirms done => exact .quit later confirms done

theorem presses_press (shell : Shell Picture) (key : Key) : Presses shell key (shell.press key) := by
  cases onTop : shell.topQuestion? with
  | none =>
    rw [press_of_no_question onTop]
    exact (commands_command shell key).presses
  | some question =>
    rw [press_of_topQuestion? onTop]
    obtain ⟨composer, composed, pressed⟩ : ∃ composer composed,
        (shell.composerFor question.id).press question key = (composer, composed) := ⟨_, _, rfl⟩
    rw [pressed]
    cases composed with
    | ignored => exact (commands_command { shell with composer := some composer } key).presses
    | handled => exact .nothing key _ rfl
    | notice text => exact .nothing key _ rfl
    | submit answer => exact .answer key question composer answer onTop pressed

/-- An answer that a composer hands over goes to the composer's question. -/
theorem questionId_of_pressed {question : Question} {key : Key} {composer : Composer}
    {answer : Answer}
    (pressed : (shell.composerFor question.id).press question key = (composer, .submit answer)) :
    answer.questionId = question.id := by
  have addressed := (shell.composerFor question.id).addressed_press question key answer
  rw [pressed, questionId_composerFor] at addressed
  exact addressed rfl

theorem queue_sendAnswer (shell : Shell Picture) (answer : Answer) :
    (shell.sendAnswer answer).1.queue = shell.queue := by
  show shell.popOverlay.1.settle.queue = shell.queue
  rw [queue_settle]
  rfl

/-! ### Events -/

/-- Nothing but a key makes the shell ask for anything, and nothing but what it asks for makes it
quit. -/
theorem update_cases (shell : Shell Picture) (event : Event) :
    (∃ key, event = .key key ∧ shell.quitting = false ∧
      Presses shell key (shell.update event)) ∨
        (shell.update event).2 = none ∧ (shell.update event).1.quitting = shell.quitting := by
  cases going : shell.quitting with
  | true =>
    rw [update_of_quitting going]
    exact Or.inr ⟨rfl, going⟩
  | false =>
    cases event with
    | key key =>
      rw [update_key going]
      exact Or.inl ⟨key, rfl, rfl, presses_press shell key⟩
    | interrupt =>
      rw [update_interrupt going]
      exact Or.inr ⟨rfl, (congrArg Prod.snd (queue_requestQuit shell)).trans going⟩
    | resize width height =>
      rw [update_resize going]
      exact Or.inr ⟨rfl, going⟩
    | asked question =>
      rw [update_asked going]
      exact Or.inr ⟨rfl, (congrArg Prod.snd (queue_hearAsked shell question)).trans going⟩
    | accepted id =>
      rw [update_accepted going]
      exact Or.inr ⟨rfl, (congrArg Prod.snd (queue_hearAccepted shell id)).trans going⟩
    | rejected id reason =>
      rw [update_rejected going]
      exact Or.inr ⟨rfl, (congrArg Prod.snd (queue_hearRejected shell id reason)).trans going⟩
    | retracted id =>
      rw [update_retracted going]
      exact Or.inr ⟨rfl, (congrArg Prod.snd (queue_hearRetracted shell id)).trans going⟩

theorem asks_nothing {event : Event} (noKey : ∀ key, event ≠ .key key) :
    (shell.update event).2 = none := by
  rcases update_cases shell event with ⟨key, isKey, -⟩ | ⟨silent, -⟩
  · exact absurd isKey (noKey key)
  · exact silent

/-! ### Reports of the terminal -/

/-- How the shell can respond to the operator: it asks for nothing, or the operator quits, or an
answer is to be delivered to the question on top. -/
inductive Response (shell : Shell Picture) : Shell Picture × Option Action → Prop where
  | quiet (later : Shell Picture) (same : later.queue = shell.queue) : Response shell (later, none)
  | quits (later : Shell Picture) (same : later.queue = (shell.questions, true)) :
    Response shell (later, some .quit)
  | answers (later : Shell Picture) (question : Question) (answer : Answer)
    (going : shell.quitting = false) (onTop : shell.topQuestion? = some question)
    (addressed : answer.questionId = question.id) (same : later.queue = shell.queue) :
    Response shell (later, some (.submit answer))

theorem Presses.response {key : Key} {result : Shell Picture × Option Action}
    (presses : Presses shell key result) (going : shell.quitting = false) :
    Response shell result := by
  cases presses with
  | nothing _ later same => exact .quiet later same
  | quit later _ done => exact .quits later done
  | answer _ question composer answer onTop pressed =>
    exact .answers _ question answer going onTop (questionId_of_pressed pressed)
      (queue_sendAnswer { shell with composer := some composer } answer)

/-- The terminal reports keys, an interrupt and its size, and no news from the gate. -/
theorem event?_cases {report : Terminal.Report} {event : Event}
    (heard : report.event? = some event) :
    (∃ key, event = .key key) ∨ event = .interrupt ∨
      ∃ width height, event = .resize width height := by
  cases report with
  | key report =>
    unfold Terminal.Report.event? Terminal.KeyReport.event? at heard
    simp only at heard
    split at heard
    · cases heard
    split at heard
    · split at heard
      · cases heard
        exact Or.inr (Or.inl rfl)
      · cases heard
    · obtain ⟨key, -, rfl⟩ := Option.map_eq_some_iff.mp heard
      exact Or.inl ⟨key, rfl⟩
  | resize width height =>
    cases heard
    exact Or.inr (Or.inr ⟨width, height, rfl⟩)
  | focusGained => cases heard
  | focusLost => cases heard
  | mouse => cases heard
  | paste text => cases heard

/-- Whatever the terminal reports, the shell responds in one of these ways. -/
theorem response_update (shell : Shell Picture) {report : Terminal.Report} {event : Event}
    (heard : report.event? = some event) : Response shell (shell.update event) := by
  cases going : shell.quitting with
  | true =>
    rw [update_of_quitting going]
    exact .quiet shell rfl
  | false =>
    rcases event?_cases heard with ⟨key, rfl⟩ | rfl | ⟨width, height, rfl⟩
    · rw [update_key going]
      exact (presses_press shell key).response going
    · rw [update_interrupt going]
      exact .quiet _ (queue_requestQuit shell)
    · rw [update_resize going]
      exact .quiet _ rfl

end OperatorDesk.Shell
