/-
This file keeps an operator's watch: the desk with the dashboard, and the crew at its gate. Either
time goes by or the operator does something. Afterwards everybody at the gate takes their turns,
and when time has gone by the desk looks for news.
-/

import OperatorDesk.Crew
import OperatorDesk.Desk
import OperatorDesk.Settings
import OperatorDesk.Shell.Rendering

namespace OperatorDesk

/-- What can happen during a watch. -/
inductive Happening where
  | elapsed (millis : Nat)
  | heard (event : Event)
  deriving DecidableEq, Repr

/-- The desk and the crew at its gate. -/
structure Watch where
  crew : Crew
  shell : Shell Dashboard
  /-- The desk has the reading side of the gate. -/
  reads : Bool

namespace Watch

/-- The desk. -/
def desk (watch : Watch) : Desk Dashboard :=
  { shell := watch.shell, gate := watch.crew.gate, reads := watch.reads }

/-- The operator has quit. -/
def isOver (watch : Watch) : Bool :=
  watch.desk.shouldQuit

/-- Takes over a changed desk and gives everybody at the gate their turns. -/
def withDesk (watch : Watch) (desk : Desk Dashboard) : Watch :=
  { crew := (watch.crew.withGate desk.gate).settle, shell := desk.shell, reads := desk.reads }

/-- The start of a watch at a new gate, with scripted agents if there is to be a demonstration. -/
def start (gate : Gate) (compactBelow : Nat) (demo : Bool) : Watch :=
  let desk := Desk.new id gate compactBelow
  let crew := Crew.ofGate desk.gate
  { crew := (if demo then crew.demonstrate else crew).settle, shell := desk.shell
    reads := desk.reads }

/-- The start of a watch with these settings; none if there can be no gate for them. -/
def start? (settings : Settings) (demo : Bool) : Option Watch :=
  (Gate.new? settings.gateSettings).map fun gate => start gate settings.compactBelow demo

/-- Lets time go by, and has the desk look for news. -/
def elapse (watch : Watch) (millis : Nat) : Watch :=
  let later := { watch with crew := (watch.crew.advance millis).settle }
  later.withDesk later.desk.poll.1

/-- Does what an event asks for. -/
def hear (watch : Watch) (event : Event) : Watch :=
  watch.withDesk (watch.desk.dispatch event)

/-- The watch after a happening. -/
def next (watch : Watch) : Happening → Watch
  | .elapsed millis => watch.elapse millis
  | .heard event => watch.hear event

/-- The text of the current view. -/
def viewText (watch : Watch) : String :=
  watch.shell.renderView (Dashboard.draw watch.crew.gate)

end Watch

end OperatorDesk
