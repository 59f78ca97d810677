/-
This file says that the shell of a desk is the shell that hears the story of the run, and what the
story is made of. A poll tells of questions that were asked, and then of those that were withdrawn.
A report of the terminal is told by itself, or is followed by the verdict on an answer to the
question that was on top.
-/

import OperatorDesk.Desk.Hearing
import OperatorDesk.Proofs.Shell.Acting
import OperatorDesk.Proofs.Shell.Resting

namespace OperatorDesk.Desk

variable {Picture : Type} {desk : Desk Picture} {id : String}

/-! ### Runs and their stories -/

theorem tellAll_eq_hearAll {News : Type} (shell : Shell Picture) (event : News → Event)
    (news : List News) :
    tellAll shell event news = shell.hearAll (news.map fun item => .event (event item)) := by
  rw [Shell.hearAll, List.foldl_map]
  rfl

theorem hearVerdict_eq_hearAll (shell : Shell Picture) (id : String)
    (verdict : Except AskFailure Unit) :
    hearVerdict shell id verdict = shell.hearAll (verdictNotices id verdict) := by
  unfold hearVerdict verdictNotices
  cases verdictEvent? id verdict with
  | some event => rfl
  | none => cases verdict <;> rfl

theorem shell_poll (desk : Desk Picture) :
    desk.poll.1.shell = desk.shell.hearAll desk.pollNotices := by
  rw [pollNotices, Shell.hearAll_append, ← tellAll_eq_hearAll, ← tellAll_eq_hearAll]
  rfl

theorem shell_dispatch (desk : Desk Picture) (event : Event) : (desk.dispatch event).shell =
    desk.shell.hearAll (.event event :: desk.notices (desk.shell.update event).2) := by
  obtain ⟨shell, action, updated⟩ : ∃ shell action,
      desk.shell.update event = (shell, action) := ⟨_, _, rfl⟩
  have hears : desk.shell.hear (.event event) = shell := congrArg Prod.fst updated
  show (desk.dispatch event).shell = (desk.shell.hear (.event event)).hearAll _
  rw [hears, dispatch, updated]
  cases action with
  | none => rfl
  | some action =>
    cases action with
    | quit => rfl
    | submit answer => exact hearVerdict_eq_hearAll shell answer.questionId _

/-- The shell after a move has heard what the move let it know. -/
theorem shell_step (desk : Desk Picture) (move : Move) :
    (desk.step move).shell = desk.shell.hearAll (desk.heard move) := by
  cases move with
  | outside _ _ => rfl
  | poll => exact shell_poll desk
  | report report =>
    simp only [step, heard]
    cases report.event? with
    | some event => exact shell_dispatch desk event
    | none => rfl

theorem shell_run (desk : Desk Picture) (moves : List Move) :
    (desk.run moves).shell = desk.shell.hearAll (desk.story moves) := by
  induction moves generalizing desk with
  | nil => rfl
  | cons move rest inductionHypothesis =>
    rw [story, Shell.hearAll_append, ← shell_step]
    exact inductionHypothesis (desk.step move)

theorem story_append (desk : Desk Picture) (first second : List Move) :
    desk.story (first ++ second) = desk.story first ++ (desk.run first).story second := by
  induction first generalizing desk with
  | nil => rfl
  | cons move rest inductionHypothesis =>
    rw [List.cons_append, story, story, inductionHypothesis, List.append_assoc]
    rfl

/-! ### What a story is made of -/

/-- What the shell can be told of the verdict on an answer to this question. -/
inductive Judges (id : String) : Notice → Prop where
  | accepted : Judges id (.event (.accepted id))
  | rejected (reason : String) : Judges id (.event (.rejected id reason))
  | retracted : Judges id (.event (.retracted id))
  | other (text : String) : Judges id (.status text)

theorem verdictNotices_cases (id : String) (verdict : Except AskFailure Unit) :
    verdictNotices id verdict = [] ∨
      ∃ notice, verdictNotices id verdict = [notice] ∧ Judges id notice := by
  cases verdict with
  | ok _ => exact Or.inr ⟨_, rfl, .accepted⟩
  | error failure =>
    simp only [verdictNotices, verdictEvent?]
    by_cases refused : failure.isRefusal
    · simp only [refused, if_true]
      exact Or.inr ⟨_, rfl, .rejected _⟩
    · by_cases missing : failure.isNotFound
      · simp only [refused, missing, if_true]
        exact Or.inr ⟨_, rfl, .retracted⟩
      · simp only [refused, missing]
        exact Or.inr ⟨_, rfl, .other _⟩

/-- The terminal brings no news from the gate. -/
theorem not_news_of_event? {report : Terminal.Report} {event : Event}
    (heard : report.event? = some event) : (∀ question, event ≠ .asked question) ∧
      ∀ id reason, event ≠ .rejected id reason := by
  rcases Shell.event?_cases heard with ⟨key, rfl⟩ | rfl | ⟨width, height, rfl⟩ <;>
    exact ⟨nofun, nofun⟩

/-- What a report of the terminal lets the shell know. -/
inductive Reported (desk : Desk Picture) (report : Terminal.Report) : List Notice → Prop where
  | nothing : Reported desk report []
  | event (event : Event) (heard : report.event? = some event) :
    Reported desk report [.event event]
  | judged (event : Event) (heard : report.event? = some event) (question : Question)
    (onTop : desk.shell.topQuestion? = some question)
    (same : (desk.shell.update event).1.queue = desk.shell.queue) (notice : Notice)
    (judges : Judges question.id notice) : Reported desk report [.event event, notice]

theorem reported_heard (desk : Desk Picture) (report : Terminal.Report) :
    Reported desk report (desk.heard (.report report)) := by
  simp only [heard]
  split
  · next event heard =>
    have response := desk.shell.response_update heard
    obtain ⟨shell, action, updated⟩ : ∃ shell action,
        desk.shell.update event = (shell, action) := ⟨_, _, rfl⟩
    rw [updated] at response ⊢
    cases response with
    | quiet _ _ => exact .event event heard
    | quits _ _ => exact .event event heard
    | answers _ question answer _ onTop addressed same =>
      have kept : (desk.shell.update event).1.queue = desk.shell.queue := by
        rw [updated]
        exact same
      rcases verdictNotices_cases answer.questionId (desk.gate.submit answer).2 with
        nothing | ⟨notice, one, judges⟩
      · simp only [notices, nothing]
        exact .event event heard
      · simp only [notices, one]
        exact .judged event heard question onTop kept notice (addressed ▸ judges)
  · exact .nothing

end OperatorDesk.Desk
