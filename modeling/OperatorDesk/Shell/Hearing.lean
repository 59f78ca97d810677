/-
This file defines what a shell is let know while it is in use: events, and lines for its status. A
property holds throughout a sequence of notices if it holds whenever one of them arrives.
-/

import OperatorDesk.Shell

namespace OperatorDesk

/-- What a shell is let know. -/
inductive Notice where
  | event (event : Event)
  | status (text : String)
  deriving DecidableEq, Repr

/-- The key, if the notice is one. -/
def Notice.key? : Notice → Option Key
  | .event (.key key) => some key
  | _ => none

namespace Shell

variable {Picture : Type}

/-- The shell after a notice. -/
def hear (shell : Shell Picture) : Notice → Shell Picture
  | .event event => (shell.update event).1
  | .status text => shell.setStatus text

/-- The shell after a sequence of notices. -/
def hearAll (shell : Shell Picture) (notices : List Notice) : Shell Picture :=
  notices.foldl hear shell

/-- Whenever a notice arrives, it and the shell have this property. -/
def Throughout (holds : Shell Picture → Notice → Prop) (shell : Shell Picture) :
    List Notice → Prop
  | [] => True
  | notice :: rest => holds shell notice ∧ Throughout holds (shell.hear notice) rest

end Shell

end OperatorDesk
