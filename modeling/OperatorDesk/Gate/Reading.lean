/-
This file defines the reading side of the gate. A letter counts only while its own exchange is
pending; reading it frees the slot. There are three readers: one that takes what is there, and
two that can be told to wait, of which one looks at the signal of the closing and the other at
the gate's state as well. None of them yields anything once the gate is closed.
-/

import OperatorDesk.Gate

namespace OperatorDesk.Gate

/-- What a reader that may wait finds. -/
inductive Reading where
  | question (question : Question)
  /-- Nothing yet. -/
  | pending
  /-- The gate is closed, and nothing will come. -/
  | over
  deriving DecidableEq, Repr

/-- Takes the reading side. There is one reader at most. -/
def takeSeat (gate : Gate) : Gate × Bool :=
  if gate.seat = .untaken then ({ gate with seat := .taken }, true) else (gate, false)

/-- Drops the reading side with all letters. -/
def dropSeat (gate : Gate) : Gate :=
  { gate with seat := .gone, mailbox := [], parked := false }

/-- Reads a letter if its exchange is still pending, and frees its slot. -/
def accept (gate : Gate) (letter : Letter) : Gate × Option Question :=
  match gate.find? letter.question.id with
  | some exchange =>
    if exchange.number = letter.number then
      ((gate.markSlot letter.question.id false).releaseOf exchange, some letter.question)
    else (gate, none)
  | none => (gate, none)

/-- Reads the first letter that counts. The letters before it are gone afterwards. -/
def firstOf (gate : Gate) : List Letter → Gate × Option Question
  | [] => ({ gate with mailbox := [] }, none)
  | letter :: rest =>
    match { gate with mailbox := rest }.accept letter with
    | (gate, some question) => (gate, some question)
    | (gate, none) => gate.firstOf rest

/-- The next question without waiting. -/
def tryNext (gate : Gate) : Gate × Option Question :=
  if gate.signalled then (gate, none) else gate.firstOf gate.mailbox

/-- Takes the next question without waiting, so many times or until there is none. -/
def drainUpTo (gate : Gate) : Nat → Gate × List Question
  | 0 => (gate, [])
  | count + 1 =>
    match gate.tryNext with
    | (gate, none) => (gate, [])
    | (gate, some question) =>
      let (gate, rest) := gate.drainUpTo count
      (gate, question :: rest)

/-- Takes every question that is there. -/
def drain (gate : Gate) : Gate × List Question :=
  gate.drainUpTo gate.mailbox.length

/-- Goes through the letters, looking for the signal of the closing before each. -/
def nextOf (gate : Gate) : List Letter → Gate × Reading
  | [] => if gate.signalled then (gate, .over) else ({ gate with mailbox := [] }, .pending)
  | letter :: rest =>
    if gate.signalled then (gate, .over)
    else
      match { gate with mailbox := rest }.accept letter with
      | (gate, some question) => (gate, .question question)
      | (gate, none) => gate.nextOf rest

/-- One attempt of the reader that waits for the signal of the closing or for a letter. -/
def pollNext (gate : Gate) : Gate × Reading :=
  gate.nextOf gate.mailbox

/-- Goes through the letters, looking at the gate's state and for the signal before each. -/
def streamOf (gate : Gate) : List Letter → Gate × Reading
  | [] =>
    if gate.closed || gate.signalled then (gate, .over)
    else ({ gate with mailbox := [] }, .pending)
  | letter :: rest =>
    if gate.closed || gate.signalled then (gate, .over)
    else
      match { gate with mailbox := rest }.accept letter with
      | (gate, some question) => (gate, .question question)
      | (gate, none) => gate.streamOf rest

/-- One attempt of the reader that serves as a stream of questions. -/
def pollStream (gate : Gate) : Gate × Reading :=
  gate.streamOf gate.mailbox

/-- The reading side on one line, for diagnostic output. -/
def streamDiagnostic (gate : Gate) : String :=
  "QuestionStream \x7b shut_down: " ++ (if gate.signalled then "true" else "false") ++ ", .. \x7d"

end OperatorDesk.Gate
