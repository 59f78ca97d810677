/-
This file defines the operator's answers. An answer names its question, carries exactly one kind
of response, and says whether it is to be broadcast to the rest of the fleet.
-/

import OperatorDesk.Text.Blank

namespace OperatorDesk

/-- What the operator decided. -/
inductive Response where
  | selected (option : String)
  | freeText (text : String)
  | skip
  deriving DecidableEq, Repr

/-- A response addressed to a question. -/
structure Answer where
  questionId : String
  response : Response
  broadcast : Bool
  deriving DecidableEq, Repr

/-- The option that always counts as declining to decide. -/
def skipOption : String := "skip"

/-- The text names the option that declines to decide. -/
def namesSkip (text : String) : Bool :=
  Text.sameLetters (Text.trim text) skipOption

namespace Answer

/-- The answer declines to decide, outright or by the option that means so. -/
def isSkip (answer : Answer) : Bool :=
  match answer.response with
  | .skip => true
  | .selected option => namesSkip option
  | .freeText _ => false

/-- The decision in a few words, without the broadcast mark. -/
def decision (answer : Answer) : String :=
  if answer.isSkip then "skipped"
  else match answer.response with
    | .selected option => "selected " ++ option
    | .freeText text => "replied \"" ++ text ++ "\""
    | .skip => "skipped"

/-- One line for logs and for the list of answered questions. -/
def summary (answer : Answer) : String :=
  if answer.broadcast then answer.decision ++ " (broadcast)" else answer.decision

end Answer

end OperatorDesk
