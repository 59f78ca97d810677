/-
This file says what a move of a desk does at the gate and in the shell's queue. A poll drains the
gate, queues what it gets, and takes out whatever has nothing pending under its id. A report of the
terminal does nothing at the gate, or shuts it down, or delivers an answer to the question on top;
the question leaves the queue if the answer is accepted, and also if nothing is pending under its
id any more.
-/

import OperatorDesk.Desk.Run
import OperatorDesk.Proofs.Gate.Reuse
import OperatorDesk.Proofs.Shell.Acting

namespace OperatorDesk.Desk

variable {Picture : Type} {desk : Desk Picture}

/-! ### The gate -/

theorem gate_perform (desk : Desk Picture) (action : Action) :
    (desk.perform action).gate = desk.gate.run (movesOfAction (some action)) := by
  cases action <;> rfl

theorem gate_dispatch (desk : Desk Picture) (event : Event) :
    (desk.dispatch event).gate =
      desk.gate.run (movesOfAction (desk.shell.update event).2) := by
  obtain ⟨shell, action, updated⟩ : ∃ shell action,
      desk.shell.update event = (shell, action) := ⟨_, _, rfl⟩
  rw [dispatch, updated]
  cases action with
  | none => rfl
  | some action => exact gate_perform { desk with shell } action

theorem gate_poll_eq_run (desk : Desk Picture) :
    desk.poll.1.gate = desk.gate.run (if desk.reads then [.drain] else []) := by
  simp only [Desk.poll, collect]
  split <;> rfl

theorem gate_step (desk : Desk Picture) (move : Move) :
    (desk.step move).gate = desk.gate.run (desk.gateMoves move) := by
  cases move with
  | outside move _ => rfl
  | poll => exact gate_poll_eq_run desk
  | report report =>
    rw [step, gateMoves]
    cases report.event? with
    | none => rfl
    | some event => exact gate_dispatch desk event

theorem gate_run (desk : Desk Picture) (moves : List Move) :
    (desk.run moves).gate = desk.gate.run (desk.course moves) := by
  induction moves generalizing desk with
  | nil => rfl
  | cons move rest inductionHypothesis =>
    rw [course, Gate.run_append, ← gate_step]
    exact inductionHypothesis (desk.step move)

theorem course_append (desk : Desk Picture) (first second : List Move) :
    desk.course (first ++ second) = desk.course first ++ (desk.run first).course second := by
  induction first generalizing desk with
  | nil => rfl
  | cons move rest inductionHypothesis =>
    rw [List.cons_append, course, course, inductionHypothesis, List.append_assoc]
    rfl

theorem run_concat (desk : Desk Picture) (moves : List Move) (move : Move) :
    desk.run (moves ++ [move]) = (desk.run moves).step move :=
  List.foldl_append

theorem course_concat (desk : Desk Picture) (moves : List Move) (move : Move) :
    desk.course (moves ++ [move]) = desk.course moves ++ (desk.run moves).gateMoves move := by
  rw [course_append, course, course, List.append_nil]

/-! ### News -/

/-- A shell after quitting hears no news. -/
theorem tellAll_of_quitting {shell : Shell Picture} (quit : shell.quitting = true) {News : Type}
    (event : News → Event) (news : List News) : tellAll shell event news = shell := by
  induction news with
  | nil => rfl
  | cons item rest inductionHypothesis =>
    rw [tellAll, List.foldl_cons, shell.update_of_quitting quit]
    exact inductionHypothesis

theorem queue_tellAll_asked {shell : Shell Picture} (going : shell.quitting = false)
    (asked : List Question) :
    (tellAll shell Event.asked asked).queue =
      (asked.foldl Shell.entering shell.questions, false) := by
  induction asked generalizing shell with
  | nil => exact congrArg (shell.questions, ·) going
  | cons question rest inductionHypothesis =>
    have told := shell.queue_hearAsked question
    have questions : (shell.hearAsked question).questions =
        Shell.entering shell.questions question := congrArg Prod.fst told
    rw [tellAll, List.foldl_cons, List.foldl_cons, Shell.update_asked going, ← questions]
    exact inductionHypothesis ((congrArg Prod.snd told).trans going)

theorem queue_tellAll_retracted {shell : Shell Picture} (going : shell.quitting = false)
    (ids : List String) :
    (tellAll shell Event.retracted ids).queue =
      (shell.questions.filter (·.id ∉ ids), false) := by
  induction ids generalizing shell with
  | nil =>
    have all : shell.questions.filter (·.id ∉ ([] : List String)) = shell.questions :=
      List.filter_eq_self.mpr fun _ _ => by simp
    rw [all]
    exact congrArg (shell.questions, ·) going
  | cons id rest inductionHypothesis =>
    have told := shell.queue_hearRetracted id
    have questions : (shell.hearRetracted id).questions =
        shell.questions.filter (·.id != id) := congrArg Prod.fst told
    have fewer : shell.questions.filter (·.id ∉ id :: rest) =
        (shell.questions.filter (·.id != id)).filter (·.id ∉ rest) := by
      rw [List.filter_filter]
      refine List.filter_congr fun question _ => ?_
      by_cases same : question.id = id <;> simp [same]
    rw [tellAll, List.foldl_cons, Shell.update_retracted going, fewer, ← questions]
    exact inductionHypothesis ((congrArg Prod.snd told).trans going)

/-! ### Polls -/

theorem gate_poll (reads : desk.reads = true) : desk.poll.1.gate = desk.gate.drain.1 := by
  rw [gate_poll_eq_run, reads]
  rfl

/-- After a poll those questions are queued that were queued or asked and have something pending
under their id. -/
theorem queue_poll (reads : desk.reads = true) (going : desk.shell.quitting = false) :
    desk.poll.1.shell.queue =
      ((desk.gate.drain.2.foldl Shell.entering desk.shell.questions).filter
        (desk.gate.drain.1.isPending ·.id), false) := by
  have told := queue_tellAll_asked going desk.gate.drain.2
  have questions : (tellAll desk.shell Event.asked desk.gate.drain.2).questions =
      desk.gate.drain.2.foldl Shell.entering desk.shell.questions := congrArg Prod.fst told
  simp only [Desk.poll, collect, reads, if_true]
  rw [queue_tellAll_retracted (congrArg Prod.snd told), questions]
  refine congrArg (·, false) (List.filter_congr fun question member => ?_)
  have isGone : question.id ∈ withdrawn (tellAll desk.shell Event.asked desk.gate.drain.2)
      desk.gate.drain.1 ↔ desk.gate.drain.1.isPending question.id = false := by
    rw [withdrawn, questions, List.mem_filter]
    simp only [List.mem_map_of_mem member, true_and, Bool.not_eq_true']
  cases isPending : desk.gate.drain.1.isPending question.id <;> simp [isGone, isPending]

theorem shell_poll_of_quitting (quit : desk.shell.quitting = true) :
    desk.poll.1.shell = desk.shell := by
  simp only [Desk.poll, tellAll_of_quitting quit]

/-! ### Reports -/

/-- What a report does: nothing at the gate, or the operator quits, or an answer goes to the
question on top. It is refused, or finds nothing pending, or is accepted for the exchange that is
pending under the question's id. -/
inductive Dispatch (desk later : Desk Picture) : List Gate.Move → Prop where
  | quiet (gate : later.gate = desk.gate) (queue : later.shell.queue = desk.shell.queue) :
    Dispatch desk later []
  | quits (gate : later.gate = desk.gate.shutdown)
    (queue : later.shell.queue = (desk.shell.questions, true)) : Dispatch desk later [.shutdown]
  | refused (answer : Answer) (gate : later.gate = desk.gate)
    (queue : later.shell.queue = desk.shell.queue) : Dispatch desk later [.submit answer]
  | missed (answer : Answer) (absent : desk.gate.find? answer.questionId = none)
    (gate : later.gate = desk.gate)
    (queue : later.shell.queue =
      (desk.shell.questions.filter (·.id != answer.questionId), desk.shell.quitting)) :
    Dispatch desk later [.submit answer]
  | accepted (question : Question) (answer : Answer) (exchange : Exchange)
    (onTop : desk.shell.topQuestion? = some question)
    (addressed : answer.questionId = question.id)
    (found : desk.gate.find? answer.questionId = some exchange)
    (gate : later.gate = desk.gate.answered exchange answer)
    (queue : later.shell.queue =
      (desk.shell.questions.filter (·.id != answer.questionId), desk.shell.quitting)) :
    Dispatch desk later [.submit answer]

theorem dispatch_submit (orderly : desk.gate.Orderly []) {shell : Shell Picture}
    {question : Question} {answer : Answer} (going : desk.shell.quitting = false)
    (onTop : desk.shell.topQuestion? = some question)
    (addressed : answer.questionId = question.id) (same : shell.queue = desk.shell.queue) :
    Dispatch desk ({ desk with shell }.perform (.submit answer)) [.submit answer] := by
  have questions : shell.questions = desk.shell.questions := congrArg Prod.fst same
  have quitting : shell.quitting = desk.shell.quitting := congrArg Prod.snd same
  have goesOn : shell.quitting = false := quitting.trans going
  rcases orderly.submit_cases answer with ⟨absent, judged⟩ | ⟨_, refusal, -, -, judged⟩ |
    ⟨exchange, found, -, judged⟩
  · refine .missed answer absent ?_ ?_
    · simp only [perform, judged]
    · simp only [perform, judged]
      show (shell.update (.retracted answer.questionId)).1.queue = _
      rw [Shell.update_retracted goesOn, shell.queue_hearRetracted, questions, quitting]
  · refine .refused answer ?_ ?_
    · simp only [perform, judged]
    · simp only [perform, judged]
      show (shell.update (.rejected answer.questionId _)).1.queue = _
      rw [Shell.update_rejected goesOn, shell.queue_hearRejected, same]
  · refine .accepted question answer exchange onTop addressed found ?_ ?_
    · simp only [perform, judged]
    · simp only [perform, judged]
      show (shell.update (.accepted answer.questionId)).1.queue = _
      rw [Shell.update_accepted goesOn, shell.queue_hearAccepted, questions, quitting]

/-- Whatever the terminal reports does one of these. -/
theorem dispatch_report (orderly : desk.gate.Orderly []) (report : Terminal.Report) :
    Dispatch desk (desk.step (.report report)) (desk.gateMoves (.report report)) := by
  simp only [step, gateMoves, dispatch]
  cases heard : report.event? with
  | none => exact .quiet rfl rfl
  | some event =>
    have response := desk.shell.response_update heard
    simp only
    obtain ⟨shell, action, updated⟩ : ∃ shell action,
        desk.shell.update event = (shell, action) := ⟨_, _, rfl⟩
    simp only [updated] at response ⊢
    cases response with
    | quiet _ same => exact .quiet rfl same
    | quits _ same => exact .quits rfl same
    | answers _ question answer going onTop addressed same =>
      exact dispatch_submit orderly going onTop addressed same

theorem reads_step (desk : Desk Picture) (move : Move) : (desk.step move).reads = desk.reads := by
  cases move with
  | outside => rfl
  | poll => rfl
  | report report =>
    simp only [step]
    split
    · simp only [dispatch]
      split
      · next shell action _ => cases action <;> rfl
      · rfl
    · rfl

end OperatorDesk.Desk
