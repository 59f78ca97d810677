/-
This file writes the body of a question's overlay: where the question comes from, its text, its
options with the highlighted one marked, the draft, the broadcast mark, the refusal of the last
answer, and the keys that can be pressed.
-/

import OperatorDesk.Shell.Composer

namespace OperatorDesk.Composer

/-- Agent, mission and, if there is one, context. -/
def originLine (question : Question) : String :=
  question.agent ++ " · mission " ++ question.mission ++
    match question.context with
    | some context => " · " ++ context
    | none => ""

/-- The line of the option at an index, counted from one when shown. -/
def optionLine (marked : Bool) (index : Nat) (option : String) : String :=
  " " ++ (if marked then ">" else " ") ++ " " ++ toString (index + 1) ++ ". " ++ option

/-- The lines of the options from an index on. -/
def optionLinesFrom (composer : Composer) (index : Nat) : List String → List String
  | [] => []
  | option :: rest =>
    optionLine (index == composer.highlighted && !composer.editing) index option ::
      composer.optionLinesFrom (index + 1) rest

/-- The draft, open for typing or kept for later. -/
def draftLines (composer : Composer) (question : Question) : List String :=
  if !question.allowsFreeText then []
  else if composer.editing then [" > " ++ composer.draft ++ "_"]
  else if composer.draft.isEmpty then []
  else ["   draft: " ++ composer.draft]

/-- Whether the answer will be broadcast, where that can be chosen. -/
def broadcastLines (composer : Composer) (question : Question) : List String :=
  if question.allowsBroadcast then
    ["   broadcast: " ++ if composer.broadcast then "on" else "off"]
  else []

/-- Why the last answer was refused. -/
def errorLines (composer : Composer) : List String :=
  match composer.error with
  | some error => ["", "! " ++ error]
  | none => []

/-- The keys that can be pressed. -/
def hintLine (composer : Composer) (question : Question) : String :=
  if composer.editing then "enter send · esc stop typing"
  else " · ".intercalate
    (["enter answer", "s skip"] ++ (if question.allowsFreeText then ["i type"] else []) ++
      (if question.allowsBroadcast then ["b broadcast"] else []) ++ ["esc later"])

/-- All lines of the body. -/
def bodyLines (composer : Composer) (question : Question) : List String :=
  [originLine question, "", question.text, ""] ++
    composer.optionLinesFrom 0 question.options ++ composer.draftLines question ++
    composer.broadcastLines question ++ composer.errorLines ++
    ["", composer.hintLine question]

/-- The body of the question's overlay. -/
def body (composer : Composer) (question : Question) : String :=
  "\n".intercalate (composer.bodyLines question)

end OperatorDesk.Composer
