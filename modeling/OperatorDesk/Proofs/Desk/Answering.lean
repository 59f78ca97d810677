/-
This file says which question an answer from the desk resolves. The operator answers the question
that the overlay on top shows; the answer goes to the exchange that is pending under its id, which
is the one that was registered last. So the answer resolves the question that is shown, unless the
same id has been registered again since; then it resolves the later question, unseen.
-/

import OperatorDesk.Proofs.Desk.Informed

namespace OperatorDesk.Desk

variable {Picture : Type} {desk : Desk Picture}

/-- A report of the terminal leaves the history as it is, or adds one record for the question that
is shown on top. The answer resolves the question that was registered last under its id. This is
the question that is shown if nothing was registered under the id after the shown question. -/
theorem answer_resolves_latest (settings : GateSettings) (before : List Gate.Move)
    (unread : ∀ move ∈ before, move.isReading = false) (embed : Dashboard → Picture)
    (compactBelow : Nat)
    (reads : (Desk.new embed ((Gate.new settings).run before) compactBelow).reads = true)
    (moves : List Move) {desk : Desk Picture}
    (reached : (Desk.new embed ((Gate.new settings).run before) compactBelow).run moves = desk)
    {course : List Gate.Move}
    (isCourse : (Desk.new embed ((Gate.new settings).run before) compactBelow).gateCourse before
      moves = course) (report : Terminal.Report) :
    (desk.step (.report report)).gate.history = desk.gate.history ∨
      ∃ question record,
        (desk.step (.report report)).gate.history = desk.gate.history ++ [record] ∧
        desk.shell.topQuestion? = some question ∧
        desk.shell.queued? record.question.id = some question ∧
        ∃ shown ∈ (Gate.new settings).deliveries course,
          ∃ answered ∈ (Gate.new settings).registrations course,
            shown.question = question ∧ answered.exchange.question = record.question ∧
            shown.number ≤ answered.exchange.number ∧
            (∀ registration ∈ (Gate.new settings).registrations course,
              registration.exchange.question.id = question.id →
                registration.exchange.number ≤ answered.exchange.number) ∧
            ((∀ registration ∈ (Gate.new settings).registrations course,
              registration.exchange.question.id = question.id →
                registration.exchange.number ≤ shown.number) → record.question = question) := by
  have opening := opening_new unread embed compactBelow reads
  have informed := opening.informed_run moves
  have isGate := opening.gate_run moves
  rw [reached, isCourse] at informed isGate
  have orderly : desk.gate.Orderly [] := isGate ▸ Gate.orderly_run settings course
  have dispatch := dispatch_report orderly report
  generalize desk.gateMoves (.report report) = gateMoves at dispatch
  cases dispatch with
  | quiet gate => exact Or.inl (by rw [gate])
  | refused _ gate => exact Or.inl (by rw [gate])
  | missed _ _ gate => exact Or.inl (by rw [gate])
  | quits gate =>
    obtain ⟨_, _, _, _, _, -, same⟩ := Gate.shutdown_frame desk.gate
    exact Or.inl (by rw [gate, same])
  | accepted question answer exchange onTop addressed found gate =>
    have sameId : exchange.question.id = question.id := (Gate.id_of_find? found).trans addressed
    have isQueued := Shell.queued?_of_topQuestion? onTop
    have member : exchange ∈ ((Gate.new settings).run course).pending :=
      isGate ▸ Gate.mem_of_find? found
    obtain ⟨shown, isShown, rfl⟩ :=
      List.mem_map.mp (informed.shown question (List.mem_of_find?_eq_some isQueued))
    obtain ⟨answered, isAnswered, isOwn⟩ :=
      (Gate.ledger_run settings course).book.registration_of_pending member
    have ownNumber : answered.exchange.number = exchange.number := by rw [isOwn]; rfl
    have ownQuestion : answered.exchange.question = exchange.question := by rw [isOwn]; rfl
    obtain ⟨_, _, _, _, frame⟩ := Gate.answered_frame desk.gate exchange answer
    refine Or.inr ⟨shown.question, _, by rw [gate, frame], onTop, ?_, shown, isShown, answered,
      isAnswered, rfl, ownQuestion, ?_, ?_, ?_⟩
    · rw [sameId]
      exact isQueued
    · rw [ownNumber]
      exact Gate.number_le_of_delivered member isShown sameId.symm
    · intro registration isRegistration isSame
      rw [ownNumber]
      exact Gate.latest_run settings course exchange member registration isRegistration
        (isSame.trans sameId.symm)
    · exact Gate.question_eq_of_last member isShown sameId.symm

/-! ### An id that is used again -/

/-- An agent asks and has its first turn. -/
def asking (id : AskerId) (context : Context) (question : Question) : List Move :=
  [.outside (.ask context question) rfl, .outside (.poll id) rfl]

/-- An agent cancels its question. -/
def givingUp (id : AskerId) (token : Token) : List Move :=
  [.outside (.cancel token) rfl, .outside (.poll id) rfl]

/-- A question is shown and cancelled, and another is asked under its id before the next poll,
which reads the other question. -/
def askingAgain : List Move :=
  asking 0 (.cancellable 0) (.plain "Q-1" "Which store?") ++ [.poll] ++ givingUp 0 0 ++
    asking 1 .background (.plain "Q-1" "Which name?") ++ [.poll]

/-- The operator skips a question. -/
def skipping : Terminal.Report :=
  .key { code := .char 's', modifiers := [], motion := .press }

/-- A desk at a new gate with one slot. -/
def opened : Desk Dashboard :=
  Desk.new id ((Gate.new { capacity := 1, defaultTimeout := none }).run []) 120

/-- The answer to the question that was asked first is recorded for the one that was asked again,
as it was registered later. -/
theorem answer_resolves_latest_asked_again :
    ∃ shown ∈ (Gate.new { capacity := 1, defaultTimeout := none }).deliveries
        (opened.gateCourse [] askingAgain),
      ∃ answered ∈ (Gate.new { capacity := 1, defaultTimeout := none }).registrations
          (opened.gateCourse [] askingAgain),
        shown.question = .plain "Q-1" "Which store?" ∧
          shown.number ≤ answered.exchange.number := by
  have resolves := answer_resolves_latest { capacity := 1, defaultTimeout := none } []
    (fun _ member => absurd member List.not_mem_nil) id 120 (by decide) askingAgain rfl rfl
    skipping
  have grows : ((opened.run askingAgain).step (.report skipping)).gate.history ≠
      (opened.run askingAgain).gate.history := by decide
  have onTop : (opened.run askingAgain).shell.topQuestion? =
      some (.plain "Q-1" "Which store?") := by decide
  obtain ⟨question, record, -, isTop, -, shown, isShown, answered, isAnswered, shows, -, below,
    -⟩ := resolves.resolve_left grows
  have isQuestion : question = .plain "Q-1" "Which store?" :=
    Option.some_inj.mp (isTop.symm.trans onTop)
  exact ⟨shown, isShown, answered, isAnswered, shows.trans isQuestion, below⟩

/-- The first question is still shown, and the record has the other question. -/
theorem answer_resolves_unseen :
    (opened.run askingAgain).shell.topQuestion? = some (.plain "Q-1" "Which store?") ∧
      (opened.run askingAgain).shell.queued? "Q-1" = some (.plain "Q-1" "Which store?") ∧
      ((opened.run askingAgain).step (.report skipping)).gate.history.map Record.question =
        (opened.run askingAgain).gate.history.map Record.question ++
          [.plain "Q-1" "Which name?"] := by
  refine ⟨by decide, by decide, by decide⟩

end OperatorDesk.Desk
