/-
This file defines the runs of a shell: everything its owner can do to it, in any order. Hearing an
event is one of these operations.
-/

import OperatorDesk.Shell

namespace OperatorDesk.Shell

variable {Picture : Type}

/-- One thing that the owner of a shell does to it. -/
inductive Operation (Picture : Type) where
  | setCompactBelow (compactBelow : Nat)
  | register (id : String) (view : View Picture)
  | pushView (id : String)
  | popView
  | pushOverlay (overlay : Overlay)
  | popOverlay
  | cycleFocus (forward : Bool)
  | resize (width height : Nat)
  | setStatus (status : String)
  | update (event : Event)

/-- The shell after an operation. -/
def perform (shell : Shell Picture) : Operation Picture → Shell Picture
  | .setCompactBelow compactBelow => shell.withCompactBelow compactBelow
  | .register id view => shell.register id view
  | .pushView id => shell.pushView id
  | .popView => shell.popView.1
  | .pushOverlay overlay => shell.pushOverlay overlay
  | .popOverlay => shell.popOverlay.1
  | .cycleFocus forward => shell.cycleFocus forward
  | .resize width height => shell.resize width height
  | .setStatus status => shell.setStatus status
  | .update event => (shell.update event).1

/-- The shell after a sequence of operations. -/
def run (shell : Shell Picture) (operations : List (Operation Picture)) : Shell Picture :=
  operations.foldl perform shell

end OperatorDesk.Shell
