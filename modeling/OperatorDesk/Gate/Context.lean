/-
This file defines the context of a wait: an optional deadline and an optional token by which the
wait can be cancelled from elsewhere. Times are milliseconds on the gate's own clock. A context
can be looked at, which compares the deadline with the clock, or waited on, which hears the token
and the timer of the deadline; a timer is heard once the timers have been served up to its time.
-/

namespace OperatorDesk

/-- Names a way to cancel. Contexts that carry the same token are cancelled together. -/
abbrev Token := Nat

/-- What bounds a wait. -/
structure Context where
  deadline : Option Nat
  token : Option Token
  deriving DecidableEq, Repr

/-- What ended a wait. -/
inductive Ending where
  | cancelled
  | expired
  deriving DecidableEq, Repr

namespace Context

/-- A context that never ends. -/
def background : Context := { deadline := none, token := none }

/-- A context that ends at a time. -/
def withDeadline (deadline : Nat) : Context := { deadline := some deadline, token := none }

/-- A context that ends after a while. -/
def withTimeout (now timeout : Nat) : Context := withDeadline (now + timeout)

/-- A context that ends with its token. -/
def cancellable (token : Token) : Context := { deadline := none, token := some token }

/-- Adds a timeout from now on. The earlier of the two deadlines counts. -/
def timeout (context : Context) (now timeout : Nat) : Context :=
  { context with
    deadline := some (match context.deadline with
      | some deadline => min deadline (now + timeout)
      | none => now + timeout) }

/-- Adds a timeout where there is no deadline yet. -/
def orTimeout (context : Context) (now : Nat) : Option Nat → Context
  | some timeout => if context.deadline.isNone then context.timeout now timeout else context
  | none => context

/-- The token was used. -/
def isCancelled (context : Context) (used : List Token) : Bool :=
  context.token.any used.contains

/-- The deadline has been reached. -/
def isExpired (context : Context) (now : Nat) : Bool :=
  context.deadline.any (· ≤ now)

/-- What has ended the context, seen from its flags. -/
def check (context : Context) (used : List Token) (now : Nat) : Option Ending :=
  if context.isCancelled used then some .cancelled
  else if context.isExpired now then some .expired
  else none

/-- What is heard of the token. -/
def cancelSignal (context : Context) (used : List Token) : Option Ending :=
  match context.token with
  | some token => if token ∈ used then some .cancelled else none
  | none => none

/-- What is heard of the timer of the deadline when timers have been served up to a time. -/
def timerSignal (context : Context) (served : Nat) : Option Ending :=
  match context.deadline with
  | some deadline => if deadline ≤ served then some .expired else none
  | none => none

/-- What a wait on the context hears. The token is heard first. -/
def signal (context : Context) (used : List Token) (served : Nat) : Option Ending :=
  (context.cancelSignal used).or (context.timerSignal served)

end Context

end OperatorDesk
