/-
This file defines the composer, which holds what the operator has entered so far for one
question: the highlighted option, the broadcast mark and a free-text draft. It outlives the
overlay that shows it, so putting a question off, or being asked again after a refused answer,
loses nothing. `press` says what a key does to it and whether the key is used up.
-/

import OperatorDesk.Shell.Event

namespace OperatorDesk

/-- The operator's input for one question. -/
structure Composer where
  questionId : String
  /-- Index into the question's options. -/
  highlighted : Nat
  broadcast : Bool
  /-- Keys go into the draft. -/
  editing : Bool
  draft : String
  /-- Why the last answer was refused. -/
  error : Option String
  deriving DecidableEq, Repr

/-- What became of a key that was offered to the composer. -/
inductive Composed where
  /-- Not for the composer. -/
  | ignored
  | handled
  /-- Used up, with a notice for the status line. -/
  | notice (text : String)
  | submit (answer : Answer)
  deriving DecidableEq, Repr

namespace Composer

/-- Nothing entered yet. -/
def fresh (questionId : String) : Composer :=
  { questionId, highlighted := 0, broadcast := false, editing := false, draft := "",
    error := none }

/-- The answer with this response and the broadcast mark as it stands. -/
def answerWith (composer : Composer) (response : Response) : Answer :=
  { questionId := composer.questionId, response, broadcast := composer.broadcast }

/-- Hands the answer over. The refusal of the last answer is forgotten. -/
def commit (composer : Composer) (response : Response) : Composer × Composed :=
  ({ composer with error := none }, .submit (composer.answerWith response))

/-- The highlight moved on by one, from the end to the start. -/
def next (count highlighted : Nat) : Nat :=
  if count = 0 then highlighted else (min highlighted (count - 1) + 1) % count

/-- The highlight moved back by one, from the start to the end. -/
def previous (count highlighted : Nat) : Nat :=
  if count = 0 then highlighted else (min highlighted (count - 1) + count - 1) % count

/-- Starts typing if the question takes free text. -/
def startEditing (composer : Composer) (question : Question) : Composer × Composed :=
  if question.allowsFreeText then ({ composer with editing := true }, .handled)
  else (composer, .notice "This question only takes one of its options")

/-- Answers with the option at an index, if there is one. -/
def pick? (composer : Composer) (question : Question) (index : Nat) :
    Option (Composer × Composed) :=
  question.options[index]?.map fun option => composer.commit (.selected option)

/-- A key while the draft is being typed. -/
def pressEditing (composer : Composer) : Key → Composer × Composed
  | .char c => ({ composer with draft := composer.draft.push c }, .handled)
  | .backspace =>
    ({ composer with draft := String.ofList composer.draft.toList.dropLast }, .handled)
  | .enter => composer.commit (.freeText (Text.trim composer.draft))
  | .esc => ({ composer with editing := false }, .handled)
  | _ => (composer, .ignored)

/-- Answers with the highlighted option. Without options the draft is opened instead. -/
def pressEnter (composer : Composer) (question : Question) : Composer × Composed :=
  match composer.pick? question (min composer.highlighted (question.options.length - 1)) with
  | some committed => committed
  | none =>
    if question.allowsFreeText then composer.startEditing question
    else (composer, .notice "No options to choose from; press s to skip")

/-- Answers with the option that a digit from 1 to 9 names. -/
def pressDigit (composer : Composer) (question : Question) (digit : Char) :
    Composer × Composed :=
  let index := digit.toNat - '1'.toNat
  match { composer with highlighted := index }.pick? question index with
  | some committed => committed
  | none => (composer, .notice ("There is no option " ++ String.singleton digit))

/-- Turns the broadcast mark over if the question allows a broadcast. -/
def toggleBroadcast (composer : Composer) (question : Question) : Composer × Composed :=
  if question.allowsBroadcast then
    ({ composer with broadcast := !composer.broadcast }, .handled)
  else (composer, .notice "This answer cannot be broadcast")

/-- A character while no draft is being typed. -/
def pressChar (composer : Composer) (question : Question) (c : Char) : Composer × Composed :=
  if c = 'k' then
    ({ composer with highlighted := previous question.options.length composer.highlighted },
      .handled)
  else if c = 'j' then
    ({ composer with highlighted := next question.options.length composer.highlighted }, .handled)
  else if '1' ≤ c ∧ c ≤ '9' then composer.pressDigit question c
  else if c = 's' then composer.commit .skip
  else if c = 'b' then composer.toggleBroadcast question
  else if c = 'i' then composer.startEditing question
  else (composer, .ignored)

/-- Offers a key to the composer. -/
def press (composer : Composer) (question : Question) (key : Key) : Composer × Composed :=
  if composer.editing then composer.pressEditing key
  else match key with
    | .up => composer.pressChar question 'k'
    | .down => composer.pressChar question 'j'
    | .char c => composer.pressChar question c
    | .enter => composer.pressEnter question
    | _ => (composer, .ignored)

end Composer

end OperatorDesk
