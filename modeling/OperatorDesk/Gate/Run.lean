/-
This file defines the runs of a gate. A move is anything that an agent, the reader, the operator
or the clock can do to it, and a run is any sequence of moves. The moves of an asker are its
single runs, so a run of the gate says in which order the askers took their turns. The clock runs
before the timers that have become due are served, and anybody may take a turn in between. A gate
is at rest when no timer is due and no asker that has its turn would get any further.
-/

import OperatorDesk.Gate.Reading

namespace OperatorDesk.Gate

/-- One thing that happens to a gate. -/
inductive Move where
  | ask (context : Context) (question : Question)
  /-- An asker takes its turn. -/
  | poll (asker : AskerId)
  | drop (asker : AskerId)
  | cancel (token : Token)
  /-- The handle of a token is dropped. -/
  | dropHandle (token : Token)
  /-- The clock runs. -/
  | elapse (duration : Nat)
  /-- The timers that have become due are heard. -/
  | serveTimers
  /-- The time of day changes. -/
  | setWallClock (time : Moment)
  | submit (answer : Answer)
  | takeSeat
  | dropSeat
  | tryNext
  | drain
  | pollNext
  | pollStream
  /-- The reader goes to sleep or gets up. -/
  | park (asleep : Bool)
  /-- Those who were woken have got in line for their turns. -/
  | takeWakes
  | shutdown
  deriving DecidableEq, Repr

/-- The moves of the reading side that take letters out of the mailbox. -/
def Move.isReading : Move → Bool
  | .dropSeat => true
  | .tryNext => true
  | .drain => true
  | .pollNext => true
  | .pollStream => true
  | _ => false

/-- The gate after a move. -/
def step (gate : Gate) : Move → Gate
  | .ask context question => gate.ask context question
  | .poll asker => gate.poll asker
  | .drop asker => gate.drop asker
  | .cancel token => gate.cancel token
  | .dropHandle token => gate.dropHandle token
  | .elapse duration => gate.elapse duration
  | .serveTimers => gate.serveTimers
  | .setWallClock time => { gate with wallClock := time }
  | .submit answer => (gate.submit answer).1
  | .takeSeat => gate.takeSeat.1
  | .dropSeat => gate.dropSeat
  | .tryNext => gate.tryNext.1
  | .drain => gate.drain.1
  | .pollNext => gate.pollNext.1
  | .pollStream => gate.pollStream.1
  | .park asleep => { gate with parked := asleep }
  | .takeWakes => { gate with woken := [] }
  | .shutdown => gate.shutdown

/-- The gate after a sequence of moves. -/
def run (gate : Gate) (moves : List Move) : Gate :=
  moves.foldl step gate

/-- An asker is still on its way. -/
def isSuspended (gate : Gate) (id : AskerId) : Prop :=
  ∃ asker, gate.askers[id]? = some asker ∧ ∀ outcome, asker.stage ≠ .ended outcome

/-- No timer is due, and no asker gets any further by taking its turn. -/
def AtRest (gate : Gate) : Prop :=
  gate.dueTimers = [] ∧ ∀ id, gate.stage? id ≠ some .unheard ∧ gate.poll id = gate

end OperatorDesk.Gate
