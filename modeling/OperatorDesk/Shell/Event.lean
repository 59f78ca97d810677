/-
This file defines what the shell hears and what it asks for. It hears keys, an interrupt, the
size of the terminal, and news about questions; it asks to quit or to deliver an answer.
-/

import OperatorDesk.Question
import OperatorDesk.Answer

namespace OperatorDesk

/-- The keys that mean something to the shell. -/
inductive Key where
  | tab
  | backTab
  | enter
  | esc
  | backspace
  | up
  | down
  | char (c : Char)
  deriving DecidableEq, Repr

/-- What happens to the shell, one thing at a time. -/
inductive Event where
  | key (key : Key)
  /-- Ctrl+C, or the system asks the program to end. -/
  | interrupt
  | resize (width height : Nat)
  /-- An agent asked. -/
  | asked (question : Question)
  /-- The gate took the answer to this question. -/
  | accepted (questionId : String)
  /-- The gate refused the answer to this question. -/
  | rejected (questionId reason : String)
  /-- The agent gave this question up. -/
  | retracted (questionId : String)
  deriving DecidableEq, Repr

/-- What the shell wants done. -/
inductive Action where
  | quit
  | submit (answer : Answer)
  deriving DecidableEq, Repr

end OperatorDesk
