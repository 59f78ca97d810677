/-
This file names the ways in which an exchange at the gate fails, for the agent that asks and for
the operator who answers, and gives each its wording.
-/

import OperatorDesk.Answer.Refusal

namespace OperatorDesk

/-- Why a question was not answered or an answer not taken. -/
inductive AskFailure where
  /-- The answer breaks the question's rules; the question stays pending. -/
  | refused (refusal : Refusal)
  /-- Nothing waits for an answer under this id. -/
  | notFound (questionId : String)
  /-- A question with this id is already waiting. -/
  | duplicate (questionId : String)
  /-- The agent cancelled. -/
  | cancelled (questionId : String)
  /-- The agent's deadline passed. -/
  | timedOut (questionId : String)
  /-- The gate is shut down. -/
  | closed
  deriving DecidableEq, Repr

namespace AskFailure

/-- The failure in words, for logs and for the agent. -/
def message : AskFailure → String
  | .refused refusal => "Invalid answer: " ++ refusal.message
  | .notFound id => "No pending question with id " ++ id
  | .duplicate id => "Question " ++ id ++ " is already pending"
  | .cancelled id => "Question " ++ id ++ " was cancelled before it was answered"
  | .timedOut id => "Question " ++ id ++ " timed out waiting for an answer"
  | .closed => "Question gate is shut down"

/-- The failure in words for the operator's status line. -/
def statusLine : AskFailure → String
  | .refused refusal => refusal.message
  | .notFound id => id ++ " is no longer waiting for an answer"
  | .cancelled id => id ++ " was withdrawn by the agent"
  | .timedOut id => id ++ " was withdrawn by the agent"
  | failure => failure.message

/-- The agent's own context ended the wait. -/
def isCancellation : AskFailure → Bool
  | .cancelled _ => true
  | .timedOut _ => true
  | _ => false

/-- Asking again with a fresh context can succeed. A refused answer is for the operator to
repeat, so it does not count. -/
def isRetryable (failure : AskFailure) : Bool :=
  failure.isCancellation

/-- The answer was refused. -/
def isRefusal : AskFailure → Bool
  | .refused _ => true
  | _ => false

/-- Nothing was waiting. -/
def isNotFound : AskFailure → Bool
  | .notFound _ => true
  | _ => false

/-- The words of the failure behind this one. -/
def cause? : AskFailure → Option String
  | .refused refusal => some refusal.message
  | _ => none

end AskFailure

end OperatorDesk
