/-
This file defines the gate, where agents ask and the operator answers. The gate has a fixed
number of slots. A question takes a slot when it is put into the mailbox and gives it back when
it is read or ends unread; an asker that finds no slot free waits in line. Each registration has
a number of its own, so that an id can be used again once its exchange has ended.

The state holds the askers as well, with the place at which each of them waits, and the wakes
that the latest operations caused, in order. Times are milliseconds: `now` is what the clock
shows, and `served` is the time up to which timers have fired.
-/

import OperatorDesk.AskFailure
import OperatorDesk.History
import OperatorDesk.Gate.Context

namespace OperatorDesk

/-- Names an asker by its position among all that have asked. -/
abbrev AskerId := Nat

/-- How an ask ended. -/
inductive Outcome where
  | answered (answer : Answer)
  | failed (failure : AskFailure)
  /-- The agent dropped the ask. -/
  | dropped
  deriving DecidableEq, Repr

/-- How far an ask has come. -/
inductive Stage where
  /-- It has not run yet. -/
  | unheard
  /-- Registered, it waits in line for a slot. -/
  | inLine (number : Nat)
  /-- A slot was handed to it, and it has not run since. -/
  | granted (number : Nat)
  /-- Its question was put into the mailbox, or its exchange ended first; it waits for a reply. -/
  | listening (number : Nat)
  | ended (outcome : Outcome)
  deriving DecidableEq, Repr

/-- One call of an agent. -/
structure Asker where
  question : Question
  context : Context
  stage : Stage
  /-- The answer that was delivered to it, whether it has heard it or not. -/
  reply : Option Answer
  deriving DecidableEq, Repr

/-- A question that waits for its answer. -/
structure Exchange where
  number : Nat
  question : Question
  asker : AskerId
  /-- It holds a slot, from being queued until it is read. -/
  holdsSlot : Bool
  askedAt : Moment
  deriving DecidableEq, Repr

/-- A question in the mailbox. -/
structure Letter where
  number : Nat
  question : Question
  deriving DecidableEq, Repr

/-- Who has the reading side of the mailbox. -/
inductive Seat where
  | untaken
  | taken
  /-- The reader dropped it, and with it all letters. -/
  | gone
  deriving DecidableEq, Repr

/-- Who is to run again. -/
inductive Wake where
  | asker (id : AskerId)
  | reader
  deriving DecidableEq, Repr

/-- How a gate is set up. -/
structure GateSettings where
  capacity : Nat
  /-- The timeout, in milliseconds, of askers that bring no deadline. -/
  defaultTimeout : Option Nat
  deriving DecidableEq, Repr

/-- The gate and its askers. -/
structure Gate where
  settings : GateSettings
  /-- Free slots. -/
  free : Nat
  /-- The askers that wait for a slot, the longest waiting first. -/
  line : List AskerId
  /-- In the order of registration. -/
  pending : List Exchange
  /-- The oldest first. -/
  mailbox : List Letter
  seat : Seat
  /-- A reader sleeps until there is something to read. -/
  parked : Bool
  /-- The oldest first. -/
  history : List Record
  /-- The number of registrations so far. -/
  registered : Nat
  closed : Bool
  /-- Askers and readers have been told of the closing. -/
  signalled : Bool
  askers : List Asker
  /-- The tokens that were used to cancel. -/
  used : List Token
  now : Nat
  served : Nat
  /-- The time of day that is written into records. -/
  wallClock : Moment
  woken : List Wake
  deriving DecidableEq, Repr

namespace GateSettings

/-- The number of slots unless another is set. -/
def defaultCapacity : Nat := 16

/-- The greatest number of slots that can be counted. -/
def greatestCapacity : Nat := 2305843009213693951

/-- The settings with at least one slot. -/
def effective (settings : GateSettings) : GateSettings :=
  { settings with capacity := max settings.capacity 1 }

end GateSettings

/-- The asker waits, and so hears its context. -/
def Asker.isWaiting (asker : Asker) : Bool :=
  match asker.stage with
  | .inLine _ => true
  | .granted _ => true
  | .listening _ => true
  | _ => false

namespace Gate

/-- A gate that nobody has used, with all slots free. -/
def new (settings : GateSettings) : Gate :=
  { settings := settings.effective, free := settings.effective.capacity, line := [], pending := [],
    mailbox := [], seat := .untaken, parked := false, history := [], registered := 0,
    closed := false, signalled := false, askers := [], used := [], now := 0, served := 0,
    wallClock := .epoch, woken := [] }

/-- A gate for these settings; none if there are more slots than can be counted. -/
def new? (settings : GateSettings) : Option Gate :=
  if settings.effective.capacity ≤ GateSettings.greatestCapacity then some (new settings)
  else none

/-! ### What can be asked of a gate -/

/-- The exchange that is pending under an id. -/
def find? (gate : Gate) (id : String) : Option Exchange :=
  gate.pending.find? (·.question.id == id)

/-- A question with this id waits. -/
def isPending (gate : Gate) (id : String) : Bool :=
  gate.pending.any (·.question.id == id)

/-- The exchange of this id and number is still pending. -/
def isCurrent (gate : Gate) (id : String) (number : Nat) : Bool :=
  (gate.find? id).any (·.number == number)

/-- The questions that wait, the oldest first. -/
def pendingQuestions (gate : Gate) : List Question :=
  (gate.pending.mergeSort fun left right => decide (left.number ≤ right.number)).map
    Exchange.question

/-- The number of questions that wait. -/
def pendingCount (gate : Gate) : Nat :=
  gate.pending.length

/-- The stage of an asker. -/
def stage? (gate : Gate) (id : AskerId) : Option Stage :=
  (gate.askers[id]?).map Asker.stage

/-! ### Askers and wakes -/

/-- Changes one asker. -/
def updateAsker (gate : Gate) (id : AskerId) (change : Asker → Asker) : Gate :=
  { gate with askers := gate.askers.modify id change }

/-- Moves an asker to a stage. -/
def setStage (gate : Gate) (id : AskerId) (stage : Stage) : Gate :=
  gate.updateAsker id ({ · with stage })

/-- Ends an ask. -/
def conclude (gate : Gate) (id : AskerId) (outcome : Outcome) : Gate :=
  gate.setStage id (.ended outcome)

/-- Notes that somebody is to run again. -/
def wake (gate : Gate) (who : Wake) : Gate :=
  { gate with woken := gate.woken ++ [who] }

/-- Wakes the reader if it sleeps. -/
def wakeReader (gate : Gate) : Gate :=
  if gate.parked then gate.wake .reader else gate

/-! ### Slots -/

/-- Hands a slot to an asker. -/
def grant (gate : Gate) (id : AskerId) : Gate :=
  (gate.updateAsker id fun asker =>
    match asker.stage with
    | .inLine number => { asker with stage := .granted number }
    | _ => asker).wake (.asker id)

/-- Gives a slot back: to the asker that has waited longest, or to the free ones. -/
def releaseSlot (gate : Gate) : Gate :=
  match gate.line with
  | [] => { gate with free := gate.free + 1 }
  | next :: rest => { gate with line := rest }.grant next

/-- Takes an asker out of the line. -/
def leaveLine (gate : Gate) (id : AskerId) : Gate :=
  { gate with line := gate.line.filter (· != id) }

/-- Gives the slot of an exchange back if it holds one. -/
def releaseOf (gate : Gate) (exchange : Exchange) : Gate :=
  if exchange.holdsSlot then gate.releaseSlot else gate

/-- Takes the exchange of an id out, and leaves its slot to the caller. -/
def removePending (gate : Gate) (id : String) : Gate :=
  { gate with pending := gate.pending.filter (·.question.id != id) }

/-- Marks whether the exchange of an id holds a slot. -/
def markSlot (gate : Gate) (id : String) (holdsSlot : Bool) : Gate :=
  { gate with
    pending := gate.pending.map fun exchange =>
      if exchange.question.id = id then { exchange with holdsSlot } else exchange }

/-- Takes an exchange out with its slot, if it is still the one with this number. Tells whether
it was. -/
def retract (gate : Gate) (id : String) (number : Nat) : Gate × Bool :=
  match gate.find? id with
  | some exchange =>
    if exchange.number = number then ((gate.removePending id).releaseOf exchange, true)
    else (gate, false)
  | none => (gate, false)

/-! ### Asking -/

/-- A new asker, which has not run yet. -/
def ask (gate : Gate) (context : Context) (question : Question) : Gate :=
  { gate with
    askers := gate.askers ++ [{ question, context, stage := .unheard, reply := none }] }

/-- The failure that an ending of the context means for a question. -/
def failureOf (id : String) : Ending → AskFailure
  | .cancelled => .cancelled id
  | .expired => .timedOut id

/-- Ends an ask whose context ended. If its exchange is gone already, it was answered, and then
the answer counts, or the gate was shut down. -/
def finishEarly (gate : Gate) (id : AskerId) (asker : Asker) (number : Nat) (ending : Ending) :
    Gate :=
  match gate.retract asker.question.id number with
  | (gate, true) => gate.conclude id (.failed (failureOf asker.question.id ending))
  | (gate, false) =>
    match asker.reply with
    | some answer => gate.conclude id (.answered answer)
    | none => gate.conclude id (.failed .closed)

/-- Ends an ask and takes its exchange out if it is still there. -/
def leave (gate : Gate) (id : AskerId) (asker : Asker) (number : Nat) (outcome : Outcome) :
    Gate :=
  (gate.retract asker.question.id number).1.conclude id outcome

/-- Waits for a reply. A reply counts before the end of the context; an exchange that is gone
without a reply was ended by the shutdown. -/
def listen (gate : Gate) (id : AskerId) (asker : Asker) (number : Nat) : Gate :=
  match asker.reply with
  | some answer => gate.conclude id (.answered answer)
  | none =>
    if gate.isCurrent asker.question.id number then
      match asker.context.signal gate.used gate.served with
      | some ending => gate.finishEarly id asker number ending
      | none => gate.setStage id (.listening number)
    else gate.conclude id (.failed .closed)

/-- Puts a question into the mailbox. -/
def post (gate : Gate) (number : Nat) (question : Question) : Gate :=
  { gate with mailbox := gate.mailbox ++ [Letter.mk number question] }.wakeReader

/-- Goes on with a slot in hand: the exchange gets it and the question is queued. If the
exchange has ended meanwhile, the slot goes back; if nobody can read any more, the ask fails. -/
def useSlot (gate : Gate) (id : AskerId) (asker : Asker) (number : Nat) : Gate :=
  if gate.isCurrent asker.question.id number then
    let gate := gate.markSlot asker.question.id true
    if gate.seat = .gone then gate.leave id asker number (.failed .closed)
    else (gate.post number asker.question).listen id asker number
  else gate.releaseSlot.listen id asker number

/-- Takes a free slot, or gets in line for one. -/
def seekSlot (gate : Gate) (id : AskerId) (asker : Asker) (number : Nat) : Gate :=
  if 0 < gate.free then { gate with free := gate.free - 1 }.useSlot id asker number
  else { gate with line := gate.line ++ [id] }.setStage id (.inLine number)

/-- Enters an exchange under the next number. -/
def register (gate : Gate) (id : AskerId) (question : Question) : Gate :=
  { gate with
    registered := gate.registered + 1
    pending := gate.pending ++
      [{ number := gate.registered + 1, question, asker := id, holdsSlot := false,
         askedAt := gate.wallClock }] }

/-- The first run of an ask: the default timeout is applied, the question is registered, and
unless the context has ended already a slot is sought. -/
def begin (gate : Gate) (id : AskerId) (asker : Asker) : Gate :=
  if gate.closed then gate.conclude id (.failed .closed)
  else if gate.isPending asker.question.id then
    gate.conclude id (.failed (.duplicate asker.question.id))
  else
    let asker :=
      { asker with context := asker.context.orTimeout gate.now gate.settings.defaultTimeout }
    let number := gate.registered + 1
    let gate := (gate.register id asker.question).updateAsker id fun _ => asker
    match asker.context.check gate.used gate.now with
    | some ending => gate.finishEarly id asker number ending
    | none => gate.seekSlot id asker number

/-- Lets an asker run until it has to wait or ends. While it waits for a slot it hears its
context first, then the closing, then the slot. -/
def poll (gate : Gate) (id : AskerId) : Gate :=
  match gate.askers[id]? with
  | none => gate
  | some asker =>
    match asker.stage with
    | .unheard => gate.begin id asker
    | .inLine number =>
      match asker.context.signal gate.used gate.served with
      | some ending => (gate.leaveLine id).finishEarly id asker number ending
      | none =>
        if gate.signalled then (gate.leaveLine id).leave id asker number (.failed .closed)
        else gate
    | .granted number =>
      match asker.context.signal gate.used gate.served with
      | some ending => gate.releaseSlot.finishEarly id asker number ending
      | none =>
        if gate.signalled then gate.releaseSlot.leave id asker number (.failed .closed)
        else gate.useSlot id asker number
    | .listening number => gate.listen id asker number
    | .ended _ => gate

/-- The agent drops an ask. -/
def drop (gate : Gate) (id : AskerId) : Gate :=
  match gate.askers[id]? with
  | none => gate
  | some asker =>
    match asker.stage with
    | .unheard => gate.conclude id .dropped
    | .inLine number => (gate.leaveLine id).leave id asker number .dropped
    | .granted number => gate.releaseSlot.leave id asker number .dropped
    | .listening number => gate.leave id asker number .dropped
    | .ended _ => gate

/-! ### Answering -/

/-- The asker can still hear a reply, now or later. -/
def canHear (gate : Gate) (id : AskerId) : Bool :=
  (gate.askers[id]?).any Asker.isWaiting

/-- Delivers an answer to an asker. Only one that waits for its reply is woken. -/
def deliver (gate : Gate) (id : AskerId) (answer : Answer) : Gate :=
  let gate := gate.updateAsker id ({ · with reply := some answer })
  match gate.stage? id with
  | some (.listening _) => gate.wake (.asker id)
  | _ => gate

/-- Writes an accepted answer into the history. -/
def record (gate : Gate) (exchange : Exchange) (answer : Answer) : Gate :=
  { gate with
    history := gate.history ++
      [{ question := exchange.question, answer, askedAt := exchange.askedAt,
         answeredAt := gate.wallClock }] }

/-- Delivers an answer to the agent that waits for it. A refused answer leaves the question
pending. -/
def submit (gate : Gate) (answer : Answer) : Gate × Except AskFailure Unit :=
  match gate.find? answer.questionId with
  | none => (gate, .error (.notFound answer.questionId))
  | some exchange =>
    match exchange.question.refusal? answer with
    | some refusal => (gate, .error (.refused refusal))
    | none =>
      let removed := gate.removePending answer.questionId
      if gate.canHear exchange.asker then
        ((((removed.deliver exchange.asker answer).releaseOf exchange).record exchange answer),
          .ok ())
      else (removed.releaseOf exchange, .error (.notFound answer.questionId))

/-! ### Cancelling, time, closing -/

/-- The askers that wait and satisfy a condition, in the order in which they asked. -/
def waitingWhere (gate : Gate) (condition : Asker → Bool) : List AskerId :=
  (List.range gate.askers.length).filter fun id =>
    (gate.askers[id]?).any fun asker => asker.isWaiting && condition asker

/-- Uses a token to cancel. -/
def cancel (gate : Gate) (token : Token) : Gate :=
  { gate with
    used := token :: gate.used
    woken := gate.woken ++
      (gate.waitingWhere fun asker => asker.context.token == some token).map Wake.asker }

/-- Drops the handle through which a token could be used. The askers that listen for the token are
woken, and hear nothing. -/
def dropHandle (gate : Gate) (token : Token) : Gate :=
  { gate with
    woken := gate.woken ++
      (gate.waitingWhere fun asker => asker.context.token == some token).map Wake.asker }

/-- Lets the clock run without serving timers. -/
def elapse (gate : Gate) (duration : Nat) : Gate :=
  { gate with now := gate.now + duration }

/-- The askers whose timers are due but not served, with their deadlines. -/
def dueTimers (gate : Gate) : List (Nat × AskerId) :=
  (gate.waitingWhere fun _ => true).filterMap fun id =>
    match (gate.askers[id]?).bind (·.context.deadline) with
    | some deadline =>
      if gate.served < deadline ∧ deadline ≤ gate.now then some (deadline, id) else none
    | none => none

/-- Serves the timers up to the present. -/
def serveTimers (gate : Gate) : Gate :=
  { gate with
    served := gate.now
    woken := gate.woken ++
      (gate.dueTimers.mergeSort fun left right => decide (left.1 ≤ right.1)).map
        fun (_, id) => Wake.asker id }

/-- Shuts the gate down. Everybody that waits is woken: the line first, then the askers that
wait for a slot they were handed, the reader, and the askers that wait for a reply. -/
def shutdown (gate : Gate) : Gate :=
  if gate.closed then gate
  else
    let granted := gate.waitingWhere fun asker =>
      match asker.stage with
      | .granted _ => true
      | _ => false
    let listening := gate.waitingWhere fun asker =>
      match asker.stage with
      | .listening _ => true
      | _ => false
    { gate with
      closed := true
      signalled := true
      pending := []
      line := []
      free := gate.free + gate.pending.countP Exchange.holdsSlot
      woken := gate.woken ++ (gate.line ++ granted).map Wake.asker ++
        (if gate.parked then [.reader] else []) ++ listening.map Wake.asker }

end Gate

end OperatorDesk
