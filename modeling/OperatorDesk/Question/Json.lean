/-
This file keeps questions as JSON. A question without a context is written without the member;
the context, the options and the two flags need not be given when a question is read.
-/

import OperatorDesk.Question
import OperatorDesk.JsonValue

namespace OperatorDesk.Question

/-- The question as a JSON value. -/
def toJson (question : Question) : JsonValue :=
  .record <|
    [("id", .ofText question.id), ("agent_id", .ofText question.agent),
      ("mission_id", .ofText question.mission)] ++
    (match question.context with
      | some context => [("context_id", .ofText context)]
      | none => []) ++
    [("text", .ofText question.text), ("options", .ofTexts question.options),
      ("allow_free_text", .bool question.allowsFreeText),
      ("allow_broadcast", .bool question.allowsBroadcast)]

/-- The names of a question's parts. -/
def partNames : List String :=
  ["id", "agent_id", "mission_id", "context_id", "text", "options", "allow_free_text",
    "allow_broadcast"]

/-- The question that a JSON value stands for. -/
def ofJson? (value : JsonValue) : Option Question := do
  match ← value.parts? partNames with
  | [id, agent, mission, context, text, options, allowsFreeText, allowsBroadcast] =>
    return {
      id := ← JsonValue.required? JsonValue.text? id
      agent := ← JsonValue.required? JsonValue.text? agent
      mission := ← JsonValue.required? JsonValue.text? mission
      context := ← JsonValue.given? none (JsonValue.orNull? JsonValue.text?) context
      text := ← JsonValue.required? JsonValue.text? text
      options := ← JsonValue.given? [] JsonValue.texts? options
      allowsFreeText := ← JsonValue.given? false JsonValue.bool? allowsFreeText
      allowsBroadcast := ← JsonValue.given? false JsonValue.bool? allowsBroadcast }
  | _ => none

end OperatorDesk.Question
