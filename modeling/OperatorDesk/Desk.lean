/-
This file puts the shell and the gate together. The desk moves the questions that agents ask into
the shell, and what the shell asks for it does at the gate: an answer is submitted, and the
gate's verdict goes back to the shell; quitting shuts the gate down.
-/

import OperatorDesk.Gate.Run
import OperatorDesk.Dashboard

namespace OperatorDesk

/-- A shell at a gate. -/
structure Desk (Picture : Type) where
  shell : Shell Picture
  gate : Gate
  /-- The desk has the reading side of the gate. -/
  reads : Bool

namespace Desk

variable {Picture : Type}

/-- A desk with this shell. It reads the gate's questions unless somebody else does. -/
def withShell (shell : Shell Picture) (gate : Gate) : Desk Picture :=
  { shell, gate := gate.takeSeat.1, reads := gate.takeSeat.2 }

/-- A desk with the dashboard. -/
def new (embed : Dashboard → Picture) (gate : Gate) (compactBelow : Nat) : Desk Picture :=
  withShell (Dashboard.shell embed compactBelow) gate

/-- The operator has quit. -/
def shouldQuit (desk : Desk Picture) : Bool :=
  desk.shell.quitting

/-- What the shell is told of the gate's verdict on an answer. -/
def verdictEvent? (questionId : String) : Except AskFailure Unit → Option Event
  | .ok () => some (.accepted questionId)
  | .error failure =>
    if failure.isRefusal then some (.rejected questionId failure.statusLine)
    else if failure.isNotFound then some (.retracted questionId)
    else none

/-- Tells the shell the gate's verdict. -/
def hearVerdict (shell : Shell Picture) (questionId : String) (verdict : Except AskFailure Unit) :
    Shell Picture :=
  match verdictEvent? questionId verdict, verdict with
  | some event, _ => (shell.update event).1
  | none, .error failure => shell.setStatus failure.statusLine
  | none, .ok () => shell

/-- Does what the shell asks for. -/
def perform (desk : Desk Picture) : Action → Desk Picture
  | .quit => { desk with gate := desk.gate.shutdown }
  | .submit answer =>
    let (gate, verdict) := desk.gate.submit answer
    { desk with gate, shell := hearVerdict desk.shell answer.questionId verdict }

/-- One event, with what follows from it. -/
def dispatch (desk : Desk Picture) (event : Event) : Desk Picture :=
  match desk.shell.update event with
  | (shell, some action) => { desk with shell }.perform action
  | (shell, none) => { desk with shell }

/-- Tells the shell the same kind of news about several things. -/
def tellAll {News : Type} (shell : Shell Picture) (event : News → Event) (news : List News) :
    Shell Picture :=
  news.foldl (fun shell item => (shell.update (event item)).1) shell

/-- The questions that are there to be read, if the desk has the reading side. -/
def collect (desk : Desk Picture) : Gate × List Question :=
  if desk.reads then desk.gate.drain else (desk.gate, [])

/-- The queued questions that no longer wait at the gate. -/
def withdrawn (shell : Shell Picture) (gate : Gate) : List String :=
  (shell.questions.map Question.id).filter fun id => !gate.isPending id

/-- Moves new questions into the shell and takes those out whose agents have given up. Tells
whether there were any. -/
def poll (desk : Desk Picture) : Desk Picture × Bool :=
  let (gate, asked) := desk.collect
  let shell := tellAll desk.shell Event.asked asked
  let gone := withdrawn shell gate
  ({ desk with gate, shell := tellAll shell Event.retracted gone },
    !asked.isEmpty || !gone.isEmpty)

end Desk

end OperatorDesk
