/-
This file writes a shell as text: the current view, then every overlay from the bottom to the
top. What draws a view is given by the caller, so the shell can be written whatever its views
show.
-/

import OperatorDesk.Shell
import OperatorDesk.Shell.Composer.Body

namespace OperatorDesk.Shell

variable {Picture : Type}

/-- The body of the overlay that asks whether to quit. -/
def quitBody (shell : Shell Picture) : String :=
  "Quit ADMIRAL?\n\nenter confirm · esc cancel" ++
    if shell.questions.isEmpty then ""
    else "\n\n" ++ toString shell.questions.length ++ " agent question(s) are still waiting"

/-- The body of the overlay of a question. -/
def questionBody (shell : Shell Picture) (id : String) : String :=
  match shell.queued? id with
  | some question => (shell.composerFor id).body question
  | none => "Question " ++ id ++ " is no longer pending"

/-- The body of an overlay. -/
def overlayBody (shell : Shell Picture) (overlay : Overlay) : String :=
  if overlay.kind = Overlay.helpKind then Overlay.helpText
  else if overlay.kind = Overlay.confirmQuitKind then shell.quitBody
  else if overlay.kind = Overlay.questionKind then
    shell.questionBody (overlay.payload.getD "")
  else overlay.payload.getD ""

/-- The current view, or its name in brackets if nothing draws it. -/
def renderView (draw : Picture → Shell Picture → String) (shell : Shell Picture) : String :=
  match (shell.views shell.currentView).bind View.picture with
  | some picture => draw picture shell
  | none => "[" ++ shell.currentView ++ "]"

/-- An overlay below its title. -/
def renderOverlay (shell : Shell Picture) (overlay : Overlay) : String :=
  "\n\n── " ++ overlay.title ++ " ──\n" ++ shell.overlayBody overlay

/-- The current view and all overlays. -/
def render (draw : Picture → Shell Picture → String) (shell : Shell Picture) : String :=
  shell.renderView draw ++ String.join (shell.overlays.reverse.map shell.renderOverlay)

end OperatorDesk.Shell
