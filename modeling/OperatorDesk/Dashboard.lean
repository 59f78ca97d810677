/-
This file defines the views of the dashboard. Enter leads from the fleet to the mission, to the
agent and to the messages, which show what was answered and what waits at the gate.
-/

import OperatorDesk.Shell
import OperatorDesk.Gate

namespace OperatorDesk

/-- What the views of the dashboard show. -/
inductive Dashboard where
  | fleet
  | mission
  | agent
  | messages
  deriving DecidableEq, Repr

namespace Dashboard

variable {Picture : Type}

/-- The name of a view. -/
def name : Dashboard → String
  | .fleet => "fleet"
  | .mission => "mission"
  | .agent => "agent"
  | .messages => "messages"

/-- The heading of a view. -/
def heading : Dashboard → String
  | .fleet => "Fleet"
  | .mission => "Mission"
  | .agent => "Agent"
  | .messages => "Messages"

/-- The panels of a view, in the order of the Tab key. -/
def panels : Dashboard → List String
  | .fleet => ["agents", "missions", "activity"]
  | .mission => ["steps", "log"]
  | .agent => ["transcript", "tools"]
  | .messages => ["history", "pending"]

/-- The view that Enter leads to. -/
def target? : Dashboard → Option Dashboard
  | .fleet => some .mission
  | .mission => some .agent
  | .agent => some .messages
  | .messages => none

/-- All views. -/
def all : List Dashboard := [.fleet, .mission, .agent, .messages]

/-- The view at the bottom of the stack. -/
def root : Dashboard := .fleet

/-- The definition of a view. -/
def view (embed : Dashboard → Picture) (board : Dashboard) : View Picture :=
  { panels := board.panels, target := board.target?.map name, picture := some (embed board) }

/-- Registers the views of the dashboard. -/
def install (embed : Dashboard → Picture) (shell : Shell Picture) : Shell Picture :=
  all.foldl (fun shell board => shell.register board.name (board.view embed)) shell

/-- A shell that shows the fleet, with all views registered. -/
def shell (embed : Dashboard → Picture) (compactBelow : Nat) : Shell Picture :=
  install embed ((Shell.start root.name).withCompactBelow compactBelow)

/-! ### Drawing -/

/-- A panel's name, in brackets if it has the focus. -/
def panelLabel (focused : Option String) (panel : String) : String :=
  if focused = some panel then "[" ++ panel ++ "]" else " " ++ panel ++ " "

/-- The heading and the panels, side by side or one above the other. -/
def header (board : Dashboard) (shell : Shell Picture) : String :=
  let labels := (shell.panelsOf board.name).map (panelLabel (shell.focusedPanel? board.name))
  let separator := match shell.layout with
    | .standard => " │ "
    | .compact => "\n"
  board.heading ++ "\n" ++ separator.intercalate labels

/-- How many questions wait, if any do. -/
def waitingNotice (shell : Shell Picture) : String :=
  if shell.questions.isEmpty then ""
  else "\n\n" ++ toString shell.questions.length ++ " agent question(s) waiting · press a"

/-- The answered questions, the latest first. -/
def answeredList (history : List Record) : String :=
  "\n\nAnswered:" ++
    if history.isEmpty then "\n  (none yet)"
    else String.join (history.reverse.map fun record => "\n" ++ record.line)

/-- The waiting questions, the oldest first. -/
def waitingList (questions : List Question) : String :=
  "\n\nWaiting:" ++
    if questions.isEmpty then "\n  (none)"
    else String.join (questions.map fun question =>
      "\n  " ++ question.id ++ " " ++ question.agent ++ ": " ++ question.text)

/-- A view as text. -/
def draw (gate : Gate) (board : Dashboard) (shell : Shell Picture) : String :=
  match board with
  | .fleet => board.header shell ++ waitingNotice shell
  | .mission => board.header shell
  | .agent => board.header shell
  | .messages =>
    board.header shell ++ answeredList gate.history ++ waitingList gate.pendingQuestions

end Dashboard

end OperatorDesk
