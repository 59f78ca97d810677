/-
This file keeps settings as JSON, in three sections. Every section and every value in it need not
be given. Whether the settings can be used is not asked here.
-/

import OperatorDesk.Settings
import OperatorDesk.JsonValue

namespace OperatorDesk.Settings

/-- The settings as a JSON value. -/
def toJson (settings : Settings) : JsonValue :=
  .record [
    ("layout", .record [("compact_below", .ofNat settings.compactBelow)]),
    ("gate", .record [("capacity", .ofNat settings.capacity),
      ("question_timeout_secs", match settings.questionTimeoutSeconds with
        | some seconds => .ofNat seconds
        | none => .null)]),
    ("ui", .record [("tick_rate_ms", .ofNat settings.tickMillis)])]

/-- The width below which the layout is compact. -/
def layoutOfJson? (value : JsonValue) : Option Nat := do
  match ← value.parts? ["compact_below"] with
  | [compactBelow] =>
    JsonValue.given? standard.compactBelow (JsonValue.nat? widthLimit) compactBelow
  | _ => none

/-- The capacity of the gate and the wait of its questions. -/
def gateOfJson? (value : JsonValue) : Option (Nat × Option Nat) := do
  match ← value.parts? ["capacity", "question_timeout_secs"] with
  | [capacity, timeout] =>
    return (← JsonValue.given? standard.capacity (JsonValue.nat? countLimit) capacity,
      ← JsonValue.given? none (JsonValue.orNull? (JsonValue.nat? countLimit)) timeout)
  | _ => none

/-- The wait for input. -/
def uiOfJson? (value : JsonValue) : Option Nat := do
  match ← value.parts? ["tick_rate_ms"] with
  | [tick] => JsonValue.given? standard.tickMillis (JsonValue.nat? countLimit) tick
  | _ => none

/-- The settings that a JSON value stands for. -/
def ofJson? (value : JsonValue) : Option Settings := do
  match ← value.parts? ["layout", "gate", "ui"] with
  | [layout, gate, ui] =>
    let (capacity, questionTimeoutSeconds) ←
      JsonValue.given? (standard.capacity, none) gateOfJson? gate
    return {
      compactBelow := ← JsonValue.given? standard.compactBelow layoutOfJson? layout
      capacity, questionTimeoutSeconds
      tickMillis := ← JsonValue.given? standard.tickMillis uiOfJson? ui }
  | _ => none

end OperatorDesk.Settings
