/-
This file decides whether an answer may be delivered to its question. A selected option must be
declared or be the skip option, free text must be welcome and not blank, and a broadcast must be
allowed. A fault of the response is reported before a broadcast that is not allowed. The main
function is `refusal?`; an answer without a refusal is admissible.
-/

import OperatorDesk.Question
import OperatorDesk.Answer

namespace OperatorDesk

/-- Why an answer is not delivered. -/
inductive Refusal where
  /-- The selected text names no option; all declared options are quoted. -/
  | unknownOption (questionId selected options : String)
  | emptySelection (questionId : String)
  | freeTextNotAllowed (questionId : String)
  | emptyFreeText (questionId : String)
  | broadcastNotAllowed (questionId : String)
  deriving DecidableEq, Repr

/-- The refusal in words. -/
def Refusal.message : Refusal → String
  | .unknownOption id selected options =>
    "'" ++ selected ++ "' is not an option for " ++ id ++ " (choose one of: " ++ options ++ ")"
  | .emptySelection id => "No option selected for " ++ id
  | .freeTextNotAllowed id => id ++ " does not accept free-text answers"
  | .emptyFreeText id => "Free-text answer for " ++ id ++ " is empty"
  | .broadcastNotAllowed id => id ++ " does not allow broadcasting the answer"

namespace Question

/-- The fault of a response, if it has one. -/
def responseRefusal? (question : Question) : Response → Option Refusal
  | .skip => none
  | .selected option =>
    let chosen := Text.trim option
    if chosen.isEmpty then some (.emptySelection question.id)
    else if namesSkip chosen || (question.findOption? chosen).isSome then none
    else some (.unknownOption question.id chosen (", ".intercalate question.options))
  | .freeText text =>
    if !question.allowsFreeText then some (.freeTextNotAllowed question.id)
    else if (Text.trim text).isEmpty then some (.emptyFreeText question.id)
    else none

/-- The fault of asking for a broadcast, if the question does not allow one. -/
def broadcastRefusal? (question : Question) (broadcast : Bool) : Option Refusal :=
  if broadcast && !question.allowsBroadcast then some (.broadcastNotAllowed question.id) else none

/-- The first fault of an answer to this question. -/
def refusal? (question : Question) (answer : Answer) : Option Refusal :=
  (question.responseRefusal? answer.response).or (question.broadcastRefusal? answer.broadcast)

end Question

end OperatorDesk
