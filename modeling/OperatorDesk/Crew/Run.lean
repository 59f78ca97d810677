/-
This file defines the runs of a crew. Turns are taken in the order of the line for turns; whatever
else is done at the gate is done between two turns, and those whom it wakes get in line. Timers are
served between two turns as well. The course of a run is what happens at the gate.
-/

import OperatorDesk.Crew

namespace OperatorDesk

/-- The moves that are made outside of turns, and by which no ask is started. -/
def Gate.Move.isOutside : Gate.Move → Bool
  | .ask _ _ => false
  | .poll _ => false
  | .drop _ => false
  | .serveTimers => false
  | .takeWakes => false
  | _ => true

/-- An attempt of a reader that waits. -/
def ReaderKind.attempt : ReaderKind → Gate.Move
  | .next => .pollNext
  | .stream => .pollStream

namespace Crew

/-- One thing that happens to a crew. -/
inductive Deed where
  /-- An ask is started. -/
  | ask (context : Context) (question : Question)
  /-- An ask is to be dropped. -/
  | drop (asker : AskerId)
  | demonstrate
  /-- A reader is to wait for one question. -/
  | park (kind : ReaderKind)
  /-- Something is done at the gate. -/
  | operate (move : Gate.Move) (outside : move.isOutside = true)
  /-- The timers that have become due are heard. -/
  | serveTimers
  /-- The first in line has its turn. -/
  | turn

/-- Gives a turn to the first in line. -/
def takeTurn (crew : Crew) : Crew :=
  match crew.ready with
  | [] => crew
  | turn :: rest => { crew with ready := rest }.runTurn turn

/-- The crew after a deed. -/
def step (crew : Crew) : Deed → Crew
  | .ask context question => crew.ask context question
  | .drop asker => crew.drop asker
  | .demonstrate => crew.demonstrate
  | .park kind => crew.park kind
  | .operate move _ => crew.withGate (crew.gate.step move)
  | .serveTimers => crew.serveTimers
  | .turn => crew.takeTurn

/-- Nobody is at a new gate. -/
def start (settings : GateSettings) : Crew :=
  ofGate (.new settings)

/-- The crew after a sequence of deeds. -/
def run (crew : Crew) (deeds : List Deed) : Crew :=
  deeds.foldl step crew

/-! ### What happens at the gate -/

/-- The reader goes on waiting. -/
def goesOnWaiting (gate : Gate) (kind : ReaderKind) : Bool :=
  (read gate kind).2 = .pending

/-- What a turn does at the gate. -/
def movesOfTurn (crew : Crew) : Turn → List Gate.Move
  | .asker id => [if id ∈ crew.dropping then .drop id else .poll id, .takeWakes]
  | .reader =>
    match crew.reader with
    | none => []
    | some kind => [kind.attempt, .park (goesOnWaiting crew.gate kind), .takeWakes]
  | .demonstration => []
  | .agent index =>
    match crew.agents[index]? with
    | none => []
    | some agent =>
      match agent.stage with
      | .asleep wakesAt =>
        if wakesAt ≤ crew.gate.served then
          [.ask (contextOf crew.gate.now agent.script.timeout)
              (agent.script.question (arrivalId crew.arrivals)),
            .poll crew.gate.askers.length, .takeWakes]
        else []
      | _ => []

/-- What a deed does at the gate. -/
def gateMoves (crew : Crew) : Deed → List Gate.Move
  | .ask context question => [.ask context question, .takeWakes]
  | .operate move _ => [move, .takeWakes]
  | .serveTimers => [.serveTimers, .takeWakes]
  | .turn =>
    match crew.ready with
    | [] => []
    | turn :: _ => crew.movesOfTurn turn
  | _ => []

/-- What happens at the gate in a run of the crew. -/
def course (crew : Crew) : List Deed → List Gate.Move
  | [] => []
  | deed :: rest => crew.gateMoves deed ++ (crew.step deed).course rest

end Crew

end OperatorDesk
