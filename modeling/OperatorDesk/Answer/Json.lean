/-
This file keeps answers as JSON. A response is an object with its kind and, unless it is a skip,
its value, or an array of the two. The kind may itself be an object whose one member has the kind
as its name and null as its value.
-/

import OperatorDesk.Answer
import OperatorDesk.JsonValue

namespace OperatorDesk

namespace Response

/-- The kinds of responses. -/
inductive Kind where
  | selected
  | freeText
  | skip
  deriving DecidableEq, Repr

/-- The name of a kind. -/
def Kind.name : Kind → String
  | .selected => "selected"
  | .freeText => "free_text"
  | .skip => "skip"

/-- The kind with this name. -/
def Kind.ofName? (name : String) : Option Kind :=
  [Kind.selected, .freeText, .skip].find? (·.name == name)

/-- The kind that a JSON value stands for. -/
def Kind.ofJson? : JsonValue → Option Kind
  | .string (some name) => ofName? name
  | .object [(some name, .null)] => ofName? name
  | _ => none

/-- The response as a JSON value. -/
def toJson : Response → JsonValue
  | .selected option => .record [("kind", .ofText Kind.selected.name), ("value", .ofText option)]
  | .freeText text => .record [("kind", .ofText Kind.freeText.name), ("value", .ofText text)]
  | .skip => .record [("kind", .ofText Kind.skip.name)]

/-- The response of a kind with a value, which only a skip can do without. -/
def ofKind? (kind : Kind) (value : Option JsonValue) : Option Response :=
  match kind, value with
  | .selected, some value => value.text?.map .selected
  | .freeText, some value => value.text?.map .freeText
  | .skip, none => some .skip
  | .skip, some .null => some .skip
  | _, _ => none

/-- The response that a JSON value stands for. -/
def ofJson? : JsonValue → Option Response
  | .array [kind, value] => do ofKind? (← Kind.ofJson? kind) (some value)
  | .object members => do
    match ← JsonValue.parts? ["kind", "value"] (.object members) with
    | [some kind, value] => ofKind? (← Kind.ofJson? kind) value
    | _ => none
  | _ => none

end Response

namespace Answer

/-- The answer as a JSON value. -/
def toJson (answer : Answer) : JsonValue :=
  .record [("question_id", .ofText answer.questionId), ("response", answer.response.toJson),
    ("broadcast", .bool answer.broadcast)]

/-- The names of an answer's parts. -/
def partNames : List String := ["question_id", "response", "broadcast"]

/-- The answer that a JSON value stands for. -/
def ofJson? (value : JsonValue) : Option Answer := do
  match ← value.parts? partNames with
  | [questionId, response, broadcast] =>
    return {
      questionId := ← JsonValue.required? JsonValue.text? questionId
      response := ← JsonValue.required? Response.ofJson? response
      broadcast := ← JsonValue.given? false JsonValue.bool? broadcast }
  | _ => none

end Answer

end OperatorDesk
