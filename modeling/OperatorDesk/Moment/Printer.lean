/-
This file writes moments. In full a moment is written after RFC 3339 in universal time, with no,
three, six or nine digits of fraction, the fewest that lose nothing. A year outside four digits
has a sign.
-/

import OperatorDesk.Moment
import OperatorDesk.Text.Digits

namespace OperatorDesk.Moment

open Text

/-- A year, with four digits at least and with a sign when four digits do not do. -/
def yearText (year : Int) : String :=
  if 0 ≤ year ∧ year ≤ 9999 then padded 4 year.toNat
  else if year < 0 then "-" ++ padded 4 (-year).toNat
  else "+" ++ padded 4 year.toNat

/-- The time of day to the second. -/
def clockText (moment : Moment) : String :=
  padded 2 moment.hour ++ ":" ++ padded 2 moment.minute ++ ":" ++ padded 2 moment.second

/-- The fraction of a second with its point; nothing for whole seconds. -/
def fractionText (nanos : Nat) : String :=
  if nanos = 0 then ""
  else if nanos % 1000000 = 0 then "." ++ padded 3 (nanos / 1000000)
  else if nanos % 1000 = 0 then "." ++ padded 6 (nanos / 1000)
  else "." ++ padded 9 nanos

/-- The moment after RFC 3339. -/
def text (moment : Moment) : String :=
  yearText moment.date.year ++ "-" ++ padded 2 moment.date.month ++ "-" ++
    padded 2 moment.date.day ++ "T" ++ moment.clockText ++
    fractionText (moment.nanos % nanosPerSecond) ++ "Z"

end OperatorDesk.Moment
