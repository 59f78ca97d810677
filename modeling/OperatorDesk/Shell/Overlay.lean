/-
This file defines the overlays that lie above the current view: a kind, and for some kinds a
payload. The kinds the shell itself opens are the key reference, the question whether to quit,
and an agent's question, whose payload is its id. Other kinds show their payload as it is.
-/

namespace OperatorDesk

/-- A layer above the current view. -/
structure Overlay where
  kind : String
  payload : Option String
  deriving DecidableEq, Repr

namespace Overlay

/-- The kind that shows the key reference. -/
def helpKind : String := "help"

/-- The kind that asks whether to quit. -/
def confirmQuitKind : String := "confirm_quit"

/-- The kind that shows an agent's question. -/
def questionKind : String := "question"

/-- The key reference. -/
def help : Overlay := { kind := helpKind, payload := none }

/-- The question whether to quit. -/
def confirmQuit : Overlay := { kind := confirmQuitKind, payload := none }

/-- The agent's question with this id. -/
def question (id : String) : Overlay := { kind := questionKind, payload := some id }

/-- The words in the frame. -/
def title (overlay : Overlay) : String :=
  if overlay.kind = helpKind then "Help"
  else if overlay.kind = confirmQuitKind then "Quit"
  else if overlay.kind = questionKind then "Question " ++ overlay.payload.getD ""
  else overlay.kind

/-- What the key reference says. -/
def helpText : String := "\n".intercalate
  [ "ADMIRAL Key Reference",
    "",
    "Navigation:",
    "  Enter      Open / acknowledge",
    "  Esc        Close overlay / back",
    "  Tab        Next panel",
    "  Shift+Tab  Previous panel",
    "",
    "Agent questions:",
    "  a          Open the next pending question",
    "  ↑ k / ↓ j  Move between options",
    "  1-9        Answer with that option",
    "  Enter      Answer with the highlighted option",
    "  i          Type a free-text answer",
    "  b          Toggle broadcast",
    "  s          Skip",
    "  Esc        Answer later",
    "",
    "General:",
    "  ?          Show this help",
    "  q  Ctrl+C  Quit" ]

end Overlay

end OperatorDesk
