/-
This file keeps the records of answered questions as JSON. The two moments are texts after
RFC 3339.
-/

import OperatorDesk.History
import OperatorDesk.Question.Json
import OperatorDesk.Answer.Json
import OperatorDesk.Moment.Reader

namespace OperatorDesk

/-- The moment that a JSON value stands for. -/
def Moment.ofJson? (value : JsonValue) : Option Moment :=
  value.text?.bind Moment.ofText?

namespace Record

/-- The record as a JSON value. -/
def toJson (record : Record) : JsonValue :=
  .record [("question", record.question.toJson), ("answer", record.answer.toJson),
    ("asked_at", .ofText record.askedAt.text), ("answered_at", .ofText record.answeredAt.text)]

/-- The names of a record's parts. -/
def partNames : List String := ["question", "answer", "asked_at", "answered_at"]

/-- The record that a JSON value stands for. -/
def ofJson? (value : JsonValue) : Option Record := do
  match ← value.parts? partNames with
  | [question, answer, askedAt, answeredAt] =>
    return {
      question := ← JsonValue.required? Question.ofJson? question
      answer := ← JsonValue.required? Answer.ofJson? answer
      askedAt := ← JsonValue.required? Moment.ofJson? askedAt
      answeredAt := ← JsonValue.required? Moment.ofJson? answeredAt }
  | _ => none

end Record

end OperatorDesk
