/-
This file says what the log tells of a change of the shell: a new layout, a view that was opened
or left, an overlay that was laid on top, and the end.
-/

import OperatorDesk.Shell
import OperatorDesk.Log
import OperatorDesk.Text.Quoted

namespace OperatorDesk.Shell

variable {Picture : Type}

/-- The name of the shell in the log. -/
def logTarget : String := "admiral_tui::shell"

/-- A record of the shell. -/
def logged (level : LogLevel) (message : String) (fields : List (String × JsonValue)) :
    LogRecord :=
  .saying level logTarget message fields

/-- What is told of a new layout. -/
def layoutRecords (before after : Shell Picture) : List LogRecord :=
  if before.layout = after.layout then []
  else
    [logged .debug "Layout mode changed"
      [("width", .ofNat after.width), ("layout", .ofText after.layout.label)]]

/-- What is told of a view that was opened or left. -/
def viewRecords (before after : Shell Picture) : List LogRecord :=
  if before.opened = after.opened then []
  else if after.depth < before.depth then
    [logged .debug "Popped view"
      [("view", .ofText (Text.quotedOption before.opened.head?)), ("depth", .ofNat after.depth)]]
  else
    [logged .debug "Pushed view"
      [("view", .ofText after.currentView), ("depth", .ofNat after.depth)]]

/-- What is told of an overlay that was laid on top. -/
def overlayRecords (before after : Shell Picture) : List LogRecord :=
  match after.overlays with
  | top :: _ =>
    if before.overlays.length < after.overlays.length then
      [logged .debug "Pushed overlay" [("kind", .ofText top.kind)]]
    else []
  | [] => []

/-- What is told of the end. -/
def endRecords (before after : Shell Picture) : List LogRecord :=
  if after.quitting && !before.quitting then [logged .info "Operator confirmed quit" []] else []

/-- What the log tells of a change. -/
def journal (before after : Shell Picture) : List LogRecord :=
  layoutRecords before after ++ viewRecords before after ++ overlayRecords before after ++
    endRecords before after

end OperatorDesk.Shell
