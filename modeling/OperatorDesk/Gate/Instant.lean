/-
This file defines the instants of the clock on which deadlines lie. An instant counts its whole
seconds from the start of the clock in 63 bits, so there is no instant after a span of time that
leads further. The gate's own times are the milliseconds of instants.
-/

import OperatorDesk.Gate.Context

namespace OperatorDesk

/-- The number of nanoseconds in a second. -/
def Span.nanosPerSecond : Nat := 1000000000

/-- A span of time. -/
structure Span where
  seconds : Nat
  nanos : Nat
  nanos_lt : nanos < Span.nanosPerSecond
  deriving DecidableEq, Repr

/-- A span of whole seconds. -/
def Span.ofSeconds (seconds : Nat) : Span :=
  { seconds, nanos := 0, nanos_lt := by decide }

/-- A point of the clock, as the span since its start. -/
structure Instant where
  seconds : Nat
  nanos : Nat
  nanos_lt : nanos < Span.nanosPerSecond
  deriving DecidableEq, Repr

namespace Instant

/-- The last second that the clock can count. -/
def lastSecond : Nat := 9223372036854775807

/-- The instant that is whole seconds after the start of the clock. -/
def ofSeconds (seconds : Nat) : Instant :=
  { seconds, nanos := 0, nanos_lt := by decide }

/-- The instant after a span, if the clock can count so far. -/
def after? (instant : Instant) (span : Span) : Option Instant :=
  let nanos := instant.nanos + span.nanos
  let seconds := instant.seconds + span.seconds + nanos / Span.nanosPerSecond
  if seconds ≤ lastSecond then
    some
      { seconds, nanos := nanos % Span.nanosPerSecond, nanos_lt := Nat.mod_lt _ (by decide) }
  else none

/-- The deadline of an ask that is made at this instant: its own, or that of the timeout where it
has none. Fails if the clock cannot count so far. -/
def deadline? (now : Instant) (own : Option Instant) (timeout : Option Span) :
    Option (Option Instant) :=
  match own, timeout with
  | none, some timeout => (now.after? timeout).map some
  | own, _ => some own

/-- The whole milliseconds from the start of the clock. -/
def millis (instant : Instant) : Nat :=
  instant.seconds * 1000 + instant.nanos / 1000000

end Instant

end OperatorDesk
