/-
This file defines what the shell of a desk is let know in a run, one notice at a time: the questions
that a poll reads, those that it finds withdrawn, what the terminal reports, and after an answer the
gate's verdict.
-/

import OperatorDesk.Desk.Run
import OperatorDesk.Shell.Hearing

namespace OperatorDesk.Desk

variable {Picture : Type}

/-- What the shell is let know of the gate's verdict on an answer. -/
def verdictNotices (questionId : String) (verdict : Except AskFailure Unit) : List Notice :=
  match verdictEvent? questionId verdict, verdict with
  | some event, _ => [.event event]
  | none, .error failure => [.status failure.statusLine]
  | none, .ok () => []

/-- What follows from an action. -/
def notices (desk : Desk Picture) : Option Action → List Notice
  | some (.submit answer) => verdictNotices answer.questionId (desk.gate.submit answer).2
  | _ => []

/-- What the shell is let know by a poll. -/
def pollNotices (desk : Desk Picture) : List Notice :=
  desk.collect.2.map (fun question => .event (.asked question)) ++
    (withdrawn (tellAll desk.shell Event.asked desk.collect.2) desk.collect.1).map
      fun id => .event (.retracted id)

/-- What the shell is let know in a move. -/
def heard (desk : Desk Picture) : Move → List Notice
  | .outside _ _ => []
  | .poll => desk.pollNotices
  | .report report =>
    match report.event? with
    | some event => .event event :: desk.notices (desk.shell.update event).2
    | none => []

/-- What the shell is let know in a run. -/
def story (desk : Desk Picture) : List Move → List Notice
  | [] => []
  | move :: rest => desk.heard move ++ (desk.step move).story rest

end OperatorDesk.Desk
