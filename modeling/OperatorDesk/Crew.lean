/-
This file lets everybody at a gate take turns: the askers, a reader that waits, and the scripted
agents of the demonstration. Whoever is started or woken gets in line for a turn, once at a time;
a turn goes on until its owner has to wait or ends. An ask that is to be dropped is dropped when
its turn comes. `settle` gives turns until nobody is in line.
-/

import OperatorDesk.Gate.Run
import OperatorDesk.Demonstration

namespace OperatorDesk

/-- Who can have a turn. -/
inductive Turn where
  | asker (id : AskerId)
  | reader
  /-- Starts the scripted agents. -/
  | demonstration
  /-- A scripted agent, by its position. -/
  | agent (index : Nat)
  deriving DecidableEq, Repr

/-- How far a scripted agent has come. -/
inductive AgentStage where
  | unheard
  | asleep (wakesAt : Nat)
  /-- It has asked and goes on as an asker. -/
  | asking
  deriving DecidableEq, Repr

/-- A scripted agent. -/
structure Agent where
  script : Script
  stage : AgentStage

/-- The two readers that can wait. -/
inductive ReaderKind where
  | next
  | stream
  deriving DecidableEq, Repr

/-- A gate, and those who wait for a turn at it. -/
structure Crew where
  gate : Gate
  /-- Those in line for a turn. -/
  ready : List Turn
  /-- Asks that are to be dropped. -/
  dropping : List AskerId
  agents : List Agent
  /-- The scripted agents that have asked so far. -/
  arrivals : Nat
  /-- The reader that waits. -/
  reader : Option ReaderKind
  /-- What a reader that waited has come back with. -/
  readings : List (Option Question)

namespace Crew

/-- A gate with nobody at it. -/
def ofGate (gate : Gate) : Crew :=
  { gate, ready := [], dropping := [], agents := [], arrivals := 0, reader := none,
    readings := [] }

/-! ### The line for turns -/

/-- Gets in line for a turn, unless already there. -/
def enqueue (crew : Crew) (turn : Turn) : Crew :=
  if turn ∈ crew.ready then crew else { crew with ready := crew.ready ++ [turn] }

/-- The turn that a wake is for. -/
def turnOf : Wake → Turn
  | .asker id => .asker id
  | .reader => .reader

/-- Puts those in line whom the gate has woken. -/
def collect (crew : Crew) : Crew :=
  let woken := crew.gate.woken.map turnOf
  woken.foldl enqueue { crew with gate := { crew.gate with woken := [] } }

/-- Takes over a changed gate, with those whom the change has woken. -/
def withGate (crew : Crew) (gate : Gate) : Crew :=
  { crew with gate }.collect

/-! ### Starting and stopping -/

/-- Starts an ask. It runs when its turn comes. -/
def ask (crew : Crew) (context : Context) (question : Question) : Crew :=
  (crew.withGate (crew.gate.ask context question)).enqueue
    (.asker crew.gate.askers.length)

/-- Has an ask dropped when its turn comes. An ask that has ended is left alone. -/
def drop (crew : Crew) (id : AskerId) : Crew :=
  match crew.gate.stage? id with
  | none => crew
  | some (.ended _) => crew
  | some _ => { crew with dropping := crew.dropping ++ [id] }.enqueue (.asker id)

/-- Starts the demonstration. -/
def demonstrate (crew : Crew) : Crew :=
  crew.enqueue .demonstration

/-- Has a reader wait for one question. -/
def park (crew : Crew) (kind : ReaderKind) : Crew :=
  { crew with reader := some kind }.enqueue .reader

/-! ### Turns -/

/-- The turn of an asker. -/
def runAsker (crew : Crew) (id : AskerId) : Crew :=
  if id ∈ crew.dropping then crew.withGate (crew.gate.drop id)
  else crew.withGate (crew.gate.poll id)

/-- What the reader that waits finds. -/
def read (gate : Gate) : ReaderKind → Gate × Gate.Reading
  | .next => gate.pollNext
  | .stream => gate.pollStream

/-- The turn of the reader. -/
def runReader (crew : Crew) : Crew :=
  match crew.reader with
  | none => crew
  | some kind =>
    match read crew.gate kind with
    | (gate, .question question) =>
      { crew with reader := none, readings := crew.readings ++ [some question] }.withGate
        { gate with parked := false }
    | (gate, .over) =>
      { crew with reader := none, readings := crew.readings ++ [none] }.withGate
        { gate with parked := false }
    | (gate, .pending) => crew.withGate { gate with parked := true }

/-- The turn that starts the scripted agents. -/
def runDemonstration (crew : Crew) : Crew :=
  let first := crew.agents.length
  let started := { crew with
    agents := crew.agents ++ Script.all.map fun script => { script, stage := .unheard } }
  (List.range Script.all.length).foldl
    (fun crew index => crew.enqueue (.agent (first + index))) started

/-- The id of the question of a scripted agent: they are counted as they arrive. -/
def arrivalId (count : Nat) : String :=
  "D-" ++ toString (count + 1)

/-- The context in which a scripted agent asks. -/
def contextOf (now : Nat) : Option Nat → Context
  | some timeout => .withTimeout now timeout
  | none => .background

/-- A scripted agent asks, in the same turn in which it wakes up. -/
def arrive (crew : Crew) (index : Nat) (script : Script) : Crew :=
  let gate := crew.gate.ask (contextOf crew.gate.now script.timeout)
    (script.question (arrivalId crew.arrivals))
  { crew with
    arrivals := crew.arrivals + 1
    agents := crew.agents.modify index ({ · with stage := .asking }) }.withGate
      (gate.poll crew.gate.askers.length)

/-- The turn of a scripted agent: it goes to sleep, and asks when it wakes up. -/
def runAgent (crew : Crew) (index : Nat) : Crew :=
  match crew.agents[index]? with
  | none => crew
  | some agent =>
    match agent.stage with
    | .unheard =>
      { crew with
        agents := crew.agents.modify index
          ({ · with stage := .asleep (crew.gate.now + agent.script.delay) }) }
    | .asleep wakesAt =>
      if wakesAt ≤ crew.gate.served then crew.arrive index agent.script else crew
    | .asking => crew

/-- Gives a turn. -/
def runTurn (crew : Crew) : Turn → Crew
  | .asker id => crew.runAsker id
  | .reader => crew.runReader
  | .demonstration => crew.runDemonstration
  | .agent index => crew.runAgent index

/-- Gives turns until nobody is in line, at most so many. -/
def settleWithin (crew : Crew) : Nat → Crew
  | 0 => crew
  | count + 1 =>
    match crew.ready with
    | [] => crew
    | turn :: rest => ({ crew with ready := rest }.runTurn turn).settleWithin count

/-- More turns than can be needed: each asker and each agent is woken a few times at most before
time goes on. -/
def turnBound (crew : Crew) : Nat :=
  8 * (crew.ready.length + crew.gate.askers.length + crew.agents.length + 4)

/-- Gives turns until nobody is in line. -/
def settle (crew : Crew) : Crew :=
  crew.settleWithin crew.turnBound

/-! ### Time -/

/-- The agents that sleep no longer than until now, with the times at which they wake. -/
def dueAgents (crew : Crew) : List (Nat × Nat) :=
  (List.range crew.agents.length).filterMap fun index =>
    match (crew.agents[index]?).map Agent.stage with
    | some (.asleep wakesAt) =>
      if crew.gate.served < wakesAt ∧ wakesAt ≤ crew.gate.now then some (wakesAt, index) else none
    | _ => none

/-- Serves the timers up to the present, the earliest first. -/
def serveTimers (crew : Crew) : Crew :=
  let timers := crew.gate.dueTimers.map (fun (time, id) => (time, Turn.asker id)) ++
    crew.dueAgents.map fun (time, index) => (time, Turn.agent index)
  (timers.mergeSort fun left right => decide (left.1 ≤ right.1)).foldl
    (fun crew timer => crew.enqueue timer.2)
    { crew with gate := { crew.gate with served := crew.gate.now } }

/-- Lets time go on. Those in line have their turns with the clock moved on, and then the timers
are served; whoever they wake is in line afterwards. -/
def advance (crew : Crew) (duration : Nat) : Crew :=
  (crew.withGate (crew.gate.elapse duration)).settle.serveTimers

end Crew

end OperatorDesk
