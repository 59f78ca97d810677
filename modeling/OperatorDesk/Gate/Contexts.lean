/-
This file defines what agents do with contexts and with the handles that cancel them. A context is
made with a handle or without. Both can be copied: a copy of a context is bounded on its own from
then on, while all copies of a handle use the same token. A handle that was dropped cancels nothing
any more. Contexts and handles go by their positions among all that there have been, and a token
goes by the context that was made with it. Whenever the clock runs, the timers that become due are
served.
-/

import OperatorDesk.Gate.Context

namespace OperatorDesk

/-- Names a context by its position among all contexts. -/
abbrev ContextId := Nat

/-- Names a handle by its position among all handles. -/
abbrev HandleId := Nat

/-- The contexts and the handles of all agents, and the clock. -/
structure Contexts where
  held : List Context
  /-- The tokens that the handles use; none where the handle was dropped. -/
  handles : List (Option Token)
  used : List Token
  now : Nat
  /-- The time up to which timers have fired. -/
  served : Nat
  deriving DecidableEq, Repr

/-- How a context is made. -/
inductive Making where
  | background
  | withDeadline (deadline : Nat)
  | withTimeout (timeout : Nat)
  /-- It comes with a handle. -/
  | cancellable
  deriving DecidableEq, Repr

/-- What is known of a token while one waits for it. -/
inductive TokenNews where
  | used
  /-- It was not used, and every handle of it has been dropped. -/
  | forsaken
  deriving DecidableEq, Repr

namespace Contexts

/-- One thing that an agent or the clock does. -/
inductive Act where
  | make (making : Making)
  | copy (id : ContextId)
  | timeout (id : ContextId) (timeout : Nat)
  | cancel (handle : HandleId)
  | copyHandle (handle : HandleId)
  | dropHandle (handle : HandleId)
  | advance (duration : Nat)
  deriving DecidableEq, Repr

/-- Nobody has a context yet. -/
def start (now : Nat) : Contexts :=
  { held := [], handles := [], used := [], now, served := now }

/-- A further context. -/
def hold (contexts : Contexts) (context : Context) : Contexts :=
  { contexts with held := contexts.held ++ [context] }

/-- Makes a context. -/
def make (contexts : Contexts) : Making → Contexts
  | .background => contexts.hold .background
  | .withDeadline deadline => contexts.hold (.withDeadline deadline)
  | .withTimeout timeout => contexts.hold (.withTimeout contexts.now timeout)
  | .cancellable =>
    let token := contexts.held.length
    { contexts.hold (.cancellable token) with handles := contexts.handles ++ [some token] }

/-- The token of a context. -/
def tokenAt (contexts : Contexts) (id : ContextId) : Option Token :=
  (contexts.held[id]?).bind Context.token

/-- The token that a handle uses, unless the handle was dropped. -/
def tokenOf (contexts : Contexts) (handle : HandleId) : Option Token :=
  (contexts.handles[handle]?).join

/-- The contexts and handles after an act. -/
def step (contexts : Contexts) : Act → Contexts
  | .make making => contexts.make making
  | .copy id => { contexts with held := contexts.held ++ (contexts.held[id]?).toList }
  | .timeout id timeout =>
    { contexts with held := contexts.held.modify id (·.timeout contexts.now timeout) }
  | .cancel handle => { contexts with used := (contexts.tokenOf handle).toList ++ contexts.used }
  | .copyHandle handle =>
    { contexts with handles := contexts.handles ++ (contexts.handles[handle]?).toList }
  | .dropHandle handle => { contexts with handles := contexts.handles.set handle none }
  | .advance duration =>
    { contexts with now := contexts.now + duration, served := contexts.now + duration }

/-- The contexts and handles after a sequence of acts. -/
def run (contexts : Contexts) (acts : List Act) : Contexts :=
  acts.foldl step contexts

/-! ### What can be asked -/

/-- The deadline of a context. -/
def deadline? (contexts : Contexts) (id : ContextId) : Option Nat :=
  (contexts.held[id]?).bind Context.deadline

/-- The context was cancelled. -/
def isCancelled (contexts : Contexts) (id : ContextId) : Bool :=
  (contexts.held[id]?).any (·.isCancelled contexts.used)

/-- The deadline of the context has been reached. -/
def isExpired (contexts : Contexts) (id : ContextId) : Bool :=
  (contexts.held[id]?).any (·.isExpired contexts.now)

/-- A handle tells whether its token was used. -/
def handleIsCancelled? (contexts : Contexts) (handle : HandleId) : Option Bool :=
  (contexts.tokenOf handle).map contexts.used.contains

/-- What is known of a token. That it was used counts more than that it is forsaken. -/
def newsOf (contexts : Contexts) (token : Token) : Option TokenNews :=
  if token ∈ contexts.used then some .used
  else if some token ∈ contexts.handles then none
  else some .forsaken

/-- What a wait on a context that begins now comes back with at once. The token is heard before the
timer, and a token that is forsaken is waited for without end. -/
def wait (contexts : Contexts) (context : Context) : Option Ending :=
  match context.token.bind contexts.newsOf with
  | some .used => some .cancelled
  | _ => context.timerSignal contexts.served

end Contexts

end OperatorDesk
