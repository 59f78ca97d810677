/-
This file defines the records of answered questions and the line that each takes in the list of
answered questions.
-/

import OperatorDesk.Question
import OperatorDesk.Answer
import OperatorDesk.Moment.Printer

namespace OperatorDesk

/-- A question and the answer that was accepted for it. -/
structure Record where
  question : Question
  answer : Answer
  askedAt : Moment
  answeredAt : Moment
  deriving DecidableEq, Repr

namespace Record

/-- The whole seconds that the agent waited, none if the clock ran backwards. -/
def waitedSeconds (record : Record) : Nat :=
  (record.answeredAt.secondsSince record.askedAt).toNat

/-- The record on one line. -/
def line (record : Record) : String :=
  "  " ++ record.answeredAt.clockText ++ " " ++ record.question.id ++ " " ++
    record.question.agent ++ ": " ++ record.question.text ++ " → " ++ record.answer.summary ++
    " (waited " ++ toString record.waitedSeconds ++ "s)"

end Record

end OperatorDesk
