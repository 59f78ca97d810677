/-
This file defines the settings of the program: from which width on the screen is laid out wide,
how many questions the gate buffers, how long a question waits unless its agent says otherwise,
and how long the desk waits for input before it draws again. Settings that the program cannot run
with are refused, with the first such value named.
-/

import OperatorDesk.Gate
import OperatorDesk.Gate.Instant
import OperatorDesk.Shell
import OperatorDesk.StartupError

namespace OperatorDesk

/-- What the operator can set. -/
structure Settings where
  /-- Narrower screens are laid out compactly. -/
  compactBelow : Nat
  /-- Questions asked but not yet read. -/
  capacity : Nat
  /-- For questions without a deadline of their own; none waits for ever. -/
  questionTimeoutSeconds : Option Nat
  /-- The wait for input before the next picture. -/
  tickMillis : Nat
  deriving DecidableEq, Repr

namespace Settings

/-- The wait for input where nothing is set. -/
def defaultTickMillis : Nat := 50

/-- The settings where nothing is set. -/
def standard : Settings :=
  { compactBelow := Shell.defaultCompactBelow, capacity := GateSettings.defaultCapacity
    questionTimeoutSeconds := none, tickMillis := defaultTickMillis }

/-- The largest width. -/
def widthLimit : Nat := 65535

/-- The largest count. -/
def countLimit : Nat := 18446744073709551615

/-- What is wrong with the settings. -/
def fault? (settings : Settings) : Option String :=
  if settings.capacity = 0 then some "gate.capacity must be at least 1"
  else if settings.compactBelow = 0 then some "layout.compact_below must be at least 1"
  else if settings.tickMillis = 0 then some "ui.tick_rate_ms must be at least 1"
  else if settings.questionTimeoutSeconds = some 0 then
    some "gate.question_timeout_secs must be omitted or at least 1"
  else none

/-- The settings if they can be used. -/
def checked (settings : Settings) : Except StartupError Settings :=
  match settings.fault? with
  | some details => .error (.settingsUnusable details)
  | none => .ok settings

/-- The settings of the gate. -/
def gateSettings (settings : Settings) : GateSettings :=
  { capacity := settings.capacity
    defaultTimeout := settings.questionTimeoutSeconds.map (· * 1000) }

/-- The timeout of asks that bring no deadline, as a span of time. -/
def timeoutSpan (settings : Settings) : Option Span :=
  settings.questionTimeoutSeconds.map Span.ofSeconds

/-- The deadline of an ask that brings none, when it is made at this instant. Fails if the clock
cannot count so far. -/
def defaultDeadline? (settings : Settings) (now : Instant) : Option (Option Instant) :=
  now.deadline? none settings.timeoutSpan

end Settings

end OperatorDesk
