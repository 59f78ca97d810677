/-
This file defines the runs of a desk that has the reading side of its gate. Agents and time go on
at the gate as they like, and nobody else reads there; in between the desk polls, and hears what
the terminal reports. The course of a run is what happens at the gate.

The owner of a desk can use it more widely: dispatch events of any kind, those that report what
happened at the gate included, while what goes on at the gate is not restricted in any way.
-/

import OperatorDesk.Desk
import OperatorDesk.Terminal.Input

namespace OperatorDesk.Desk

variable {Picture : Type}

/-- One thing that happens to a desk or at its gate. -/
inductive Move where
  | outside (move : Gate.Move) (elsewhere : move.isReading = false)
  /-- The desk looks for new questions. -/
  | poll
  /-- The operator does something at the terminal. -/
  | report (report : Terminal.Report)

/-- The desk after a move. -/
def step (desk : Desk Picture) : Move → Desk Picture
  | .outside move _ => { desk with gate := desk.gate.step move }
  | .poll => desk.poll.1
  | .report report =>
    match report.event? with
    | some event => desk.dispatch event
    | none => desk

/-- The desk after a sequence of moves. -/
def run (desk : Desk Picture) (moves : List Move) : Desk Picture :=
  moves.foldl step desk

/-- What an action does at the gate. -/
def movesOfAction : Option Action → List Gate.Move
  | some .quit => [.shutdown]
  | some (.submit answer) => [.submit answer]
  | none => []

/-- What a move does at the gate. -/
def gateMoves (desk : Desk Picture) : Move → List Gate.Move
  | .outside move _ => [move]
  | .poll => if desk.reads then [.drain] else []
  | .report report =>
    match report.event? with
    | some event => movesOfAction (desk.shell.update event).2
    | none => []

/-- What happens at the gate in a run of the desk. -/
def course (desk : Desk Picture) : List Move → List Gate.Move
  | [] => []
  | move :: rest => desk.gateMoves move ++ (desk.step move).course rest

/-! ### Any use -/

/-- One thing that is done with a desk, or at its gate. -/
inductive Use where
  | outside (move : Gate.Move)
  /-- The desk looks for new questions. -/
  | poll
  | dispatch (event : Event)
  deriving DecidableEq, Repr

/-- The desk after one use. -/
def use (desk : Desk Picture) : Use → Desk Picture
  | .outside move => { desk with gate := desk.gate.step move }
  | .poll => desk.poll.1
  | .dispatch event => desk.dispatch event

/-- The desk after any number of uses. -/
def useAll (desk : Desk Picture) (uses : List Use) : Desk Picture :=
  uses.foldl use desk

end OperatorDesk.Desk
