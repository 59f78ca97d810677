/-
This file defines the shell: what is open, what has the focus, which questions wait for the
operator, and what the operator has entered for one of them. It has one owner and changes only
by the operations below; `update` is the one that hears events. Opened views lie above the root
view, and overlays lie above the opened views; both stacks are kept with their top first.
-/

import OperatorDesk.Shell.Overlay
import OperatorDesk.Shell.View
import OperatorDesk.Shell.Composer

namespace OperatorDesk

/-- The state of the dashboard. -/
structure Shell (Picture : Type) where
  root : String
  /-- The views opened above the root, the current one first. -/
  opened : List String
  /-- The top one first. -/
  overlays : List Overlay
  /-- The registered views. -/
  views : String → Option (View Picture)
  /-- The focused panel of each view, as an index that may lie past its last panel. -/
  focus : String → Nat
  width : Nat
  height : Nat
  compactBelow : Nat
  layout : Layout
  quitting : Bool
  /-- The questions that wait for the operator, the oldest first. -/
  questions : List Question
  composer : Option Composer
  status : Option String

namespace Shell

variable {Picture : Type}

/-- The width from which panels stand side by side, unless another is set. -/
def defaultCompactBelow : Nat := 120

/-- The greatest number of views on the stack, the root included. -/
def maxDepth : Nat := 3

/-- A shell that shows the root view alone. -/
def start (root : String) : Shell Picture :=
  { root, opened := [], overlays := [], views := fun _ => none, focus := fun _ => 0,
    width := 0, height := 0, compactBelow := defaultCompactBelow,
    layout := Layout.ofWidth 0 defaultCompactBelow, quitting := false, questions := [],
    composer := none, status := none }

/-! ### What can be asked of a shell -/

/-- The view on top of the stack. -/
def currentView (shell : Shell Picture) : String :=
  shell.opened.headD shell.root

/-- The stack of views, the root first. -/
def viewStack (shell : Shell Picture) : List String :=
  shell.root :: shell.opened.reverse

/-- The number of views on the stack. -/
def depth (shell : Shell Picture) : Nat :=
  shell.opened.length + 1

/-- The panels of a view; none if it is not registered. -/
def panelsOf (shell : Shell Picture) (view : String) : List String :=
  match shell.views view with
  | some definition => definition.panels
  | none => []

/-- The focused panel of a view. An index past the last panel means the last panel. -/
def focusedPanel? (shell : Shell Picture) (view : String) : Option String :=
  (shell.panelsOf view)[min (shell.focus view) ((shell.panelsOf view).length - 1)]?

/-- A question with this id waits. -/
def isQueued (shell : Shell Picture) (id : String) : Bool :=
  shell.questions.any (·.id == id)

/-- The waiting question with this id. -/
def queued? (shell : Shell Picture) (id : String) : Option Question :=
  shell.questions.find? (·.id == id)

/-- The overlay shows a question that still waits. -/
def isLive (shell : Shell Picture) (overlay : Overlay) : Bool :=
  overlay.kind == Overlay.questionKind && overlay.payload.any shell.isQueued

/-- The overlay shows a question that no longer waits. -/
def isStale (shell : Shell Picture) (overlay : Overlay) : Bool :=
  overlay.kind == Overlay.questionKind && !shell.isLive overlay

/-- Some overlay shows a question that still waits. -/
def showsQuestion (shell : Shell Picture) : Bool :=
  shell.overlays.any shell.isLive

/-- The overlay on top is of this kind. -/
def topIs (shell : Shell Picture) (kind : String) : Bool :=
  shell.overlays.head?.any (·.kind == kind)

/-- The waiting question that the overlay on top shows. -/
def topQuestion? (shell : Shell Picture) : Option Question :=
  match shell.overlays with
  | [] => none
  | top :: _ =>
    if top.kind = Overlay.questionKind then top.payload.bind shell.queued? else none

/-- What the operator has entered for a question: the composer if it belongs to the question,
and otherwise nothing yet. -/
def composerFor (shell : Shell Picture) (id : String) : Composer :=
  match shell.composer with
  | some composer => if composer.questionId = id then composer else Composer.fresh id
  | none => Composer.fresh id

/-! ### Settings and views -/

/-- Sets the width from which panels stand side by side; zero counts as one. -/
def withCompactBelow (shell : Shell Picture) (compactBelow : Nat) : Shell Picture :=
  { shell with
    compactBelow := max compactBelow 1
    layout := Layout.ofWidth shell.width (max compactBelow 1) }

/-- Registers a view or replaces its definition. The empty name is no view. -/
def register (shell : Shell Picture) (id : String) (view : View Picture) : Shell Picture :=
  if id.isEmpty then shell
  else { shell with views := fun name => if name = id then some view else shell.views name }

/-- Opens a view. At full depth it takes the place of the top one. -/
def pushView (shell : Shell Picture) (id : String) : Shell Picture :=
  if id.isEmpty then shell
  else if shell.depth < maxDepth then { shell with opened := id :: shell.opened }
  else { shell with opened := id :: shell.opened.tail }

/-- Leaves the top view; the root stays. Tells whether there was a view to leave. -/
def popView (shell : Shell Picture) : Shell Picture × Bool :=
  ({ shell with opened := shell.opened.tail }, !shell.opened.isEmpty)

/-- Lays an overlay on top. An overlay without a kind is none. -/
def pushOverlay (shell : Shell Picture) (overlay : Overlay) : Shell Picture :=
  if overlay.kind.isEmpty then shell
  else { shell with overlays := overlay :: shell.overlays }

/-- Takes the top overlay away. Tells whether there was one. -/
def popOverlay (shell : Shell Picture) : Shell Picture × Bool :=
  ({ shell with overlays := shell.overlays.tail }, !shell.overlays.isEmpty)

/-- Sets the focused panel of one view. -/
def focusOn (shell : Shell Picture) (view : String) (index : Nat) : Shell Picture :=
  { shell with focus := fun name => if name = view then index else shell.focus name }

/-- Moves the focus to the next panel of the current view, or to the previous one. -/
def cycleFocus (shell : Shell Picture) (forward : Bool) : Shell Picture :=
  let count := (shell.panelsOf shell.currentView).length
  if count = 0 then shell
  else
    let current := min (shell.focus shell.currentView) (count - 1)
    shell.focusOn shell.currentView
      (if forward then (current + 1) % count else (current + count - 1) % count)

/-- Takes note of the size of the terminal. -/
def resize (shell : Shell Picture) (width height : Nat) : Shell Picture :=
  { shell with width, height, layout := Layout.ofWidth width shell.compactBelow }

/-- Replaces the status line. -/
def setStatus (shell : Shell Picture) (status : String) : Shell Picture :=
  { shell with status := some status }

/-! ### Overlays of questions -/

/-- The question's overlay is on the stack. -/
def hasOverlayFor (shell : Shell Picture) (id : String) : Bool :=
  shell.overlays.any fun overlay =>
    overlay.kind == Overlay.questionKind && overlay.payload == some id

/-- Opens the overlay of a question, unless it is already on the stack. -/
def openQuestion (shell : Shell Picture) (id : String) : Shell Picture :=
  if shell.hasOverlayFor id then shell
  else { shell with composer := some (shell.composerFor id) }.pushOverlay (.question id)

/-- Opens the overlay of the question that has waited longest, if any waits. -/
def openFront (shell : Shell Picture) : Shell Picture :=
  match shell.questions with
  | [] => shell
  | front :: _ => shell.openQuestion front.id

/-- Shows the question that has waited longest, unless some waiting question is on the stack. -/
def surface (shell : Shell Picture) : Shell Picture :=
  if shell.showsQuestion then shell else shell.openFront

/-- Takes away the stale overlays on top. If there were any, the next question is shown. -/
def settle (shell : Shell Picture) : Shell Picture :=
  let kept := shell.overlays.dropWhile shell.isStale
  if kept.length = shell.overlays.length then shell
  else { shell with overlays := kept }.surface

/-! ### The queue of questions -/

/-- Takes a question out of the queue, and the composer with it. -/
def removeQuestion (shell : Shell Picture) (id : String) : Shell Picture :=
  { shell with
    questions := shell.questions.filter (·.id != id)
    composer := shell.composer.filter (·.questionId != id) }

/-- An agent asked. A question whose id already waits is not queued again. -/
def hearAsked (shell : Shell Picture) (question : Question) : Shell Picture :=
  if shell.isQueued question.id then shell
  else
    { shell with
      status := some (question.agent ++ " is asking a question")
      questions := shell.questions ++ [question] }.surface

/-- The gate took the answer. -/
def hearAccepted (shell : Shell Picture) (id : String) : Shell Picture :=
  let removed := shell.removeQuestion id
  (if shell.isQueued id then removed.setStatus ("Answered " ++ id) else removed).settle.surface

/-- The gate refused the answer: the question is put again, with the reason. -/
def hearRejected (shell : Shell Picture) (id reason : String) : Shell Picture :=
  if shell.isQueued id then
    { shell with
      composer := some { shell.composerFor id with error := some reason }
      status := some ("Answer to " ++ id ++ " rejected: " ++ reason) }.openQuestion id
  else shell

/-- The agent gave the question up. -/
def hearRetracted (shell : Shell Picture) (id : String) : Shell Picture :=
  let removed := shell.removeQuestion id
  if shell.isQueued id then
    (removed.setStatus (id ++ " was withdrawn")).settle.surface
  else removed

/-! ### Keys -/

/-- Asks whether to quit, unless that is what the top overlay does already. -/
def requestQuit (shell : Shell Picture) : Shell Picture :=
  if shell.topIs Overlay.confirmQuitKind then shell else shell.pushOverlay .confirmQuit

/-- Opens the key reference, unless it is on top already. -/
def requestHelp (shell : Shell Picture) : Shell Picture :=
  if shell.topIs Overlay.helpKind then shell else shell.pushOverlay .help

/-- Opens the question that has waited longest, or says why not. -/
def requestQuestion (shell : Shell Picture) : Shell Picture :=
  match shell.questions with
  | [] => shell.setStatus "No questions waiting"
  | front :: _ =>
    if shell.hasOverlayFor front.id then shell.setStatus "The next question is already open"
    else shell.openQuestion front.id

/-- Closes the top overlay, or leaves the top view when there is none. -/
def goBack (shell : Shell Picture) : Shell Picture :=
  if shell.overlays.isEmpty then shell.popView.1 else shell.popOverlay.1.settle

/-- Confirms quitting, closes another overlay, or opens the view that the current one leads to. -/
def goAhead (shell : Shell Picture) : Shell Picture × Option Action :=
  match shell.overlays with
  | top :: _ =>
    if top.kind = Overlay.confirmQuitKind then
      ({ shell.popOverlay.1 with quitting := true }, some .quit)
    else (shell.popOverlay.1.settle, none)
  | [] =>
    match (shell.views shell.currentView).bind View.target with
    | some target => (shell.pushView target, none)
    | none => (shell, none)

/-- A key that the composer did not use. -/
def command (shell : Shell Picture) : Key → Shell Picture × Option Action
  | .tab => (shell.cycleFocus true, none)
  | .backTab => (shell.cycleFocus false, none)
  | .esc => (shell.goBack, none)
  | .enter => shell.goAhead
  | .char c =>
    if c = '?' then (shell.requestHelp, none)
    else if c = 'q' ∨ c = 'Q' then (shell.requestQuit, none)
    else if c = 'a' then (shell.requestQuestion, none)
    else (shell, none)
  | _ => (shell, none)

/-- Hands an answer over. The question stays queued until the gate has judged the answer. -/
def sendAnswer (shell : Shell Picture) (answer : Answer) : Shell Picture × Option Action :=
  (shell.popOverlay.1.settle.setStatus ("Sending answer to " ++ answer.questionId),
    some (.submit answer))

/-- A key. It goes to the composer first while the overlay of a waiting question is on top. -/
def press (shell : Shell Picture) (key : Key) : Shell Picture × Option Action :=
  match shell.topQuestion? with
  | none => shell.command key
  | some question =>
    let (composer, composed) := (shell.composerFor question.id).press question key
    let shell := { shell with composer := some composer }
    match composed with
    | .ignored => shell.command key
    | .handled => (shell, none)
    | .notice text => (shell.setStatus text, none)
    | .submit answer => shell.sendAnswer answer

/-! ### Events -/

/-- One event. After quitting nothing changes any more. -/
def update (shell : Shell Picture) (event : Event) : Shell Picture × Option Action :=
  if shell.quitting then (shell, none)
  else match event with
    | .key key => shell.press key
    | .interrupt => (shell.requestQuit, none)
    | .resize width height => (shell.resize width height, none)
    | .asked question => (shell.hearAsked question, none)
    | .accepted id => (shell.hearAccepted id, none)
    | .rejected id reason => (shell.hearRejected id reason, none)
    | .retracted id => (shell.hearRetracted id, none)

/-- A sequence of events, with the actions they gave rise to. -/
def updateAll (shell : Shell Picture) : List Event → Shell Picture × List Action
  | [] => (shell, [])
  | event :: rest =>
    let (next, action) := shell.update event
    let (last, actions) := next.updateAll rest
    (last, action.toList ++ actions)

end Shell

end OperatorDesk
