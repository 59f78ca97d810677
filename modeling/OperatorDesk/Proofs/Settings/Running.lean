/-
This file tells with which accepted settings the program can run. A gate can be there if its slots
can be counted, which acceptance does not look at, and it then has the settings as they are; a
default deadline lies on the clock if its seconds can be counted. The gate counts deadlines in
milliseconds without a limit, and these are the milliseconds of the instants on the clock.
-/

import OperatorDesk.Startup

namespace OperatorDesk

/-! ### Instants -/

/-- Whole seconds are added to whole seconds. -/
theorem Instant.after?_ofSeconds (now : Instant) (seconds : Nat) :
    now.after? (.ofSeconds seconds) =
      if now.seconds + seconds ≤ lastSecond then
        some { now with seconds := now.seconds + seconds }
      else none := by
  have whole : now.nanos / Span.nanosPerSecond = 0 := Nat.div_eq_of_lt now.nanos_lt
  have fraction : now.nanos % Span.nanosPerSecond = now.nanos := Nat.mod_eq_of_lt now.nanos_lt
  simp only [after?, Span.ofSeconds, Nat.add_zero, whole, fraction]

/-! ### Accepted settings -/

namespace Settings

variable {settings : Settings}

theorem checked_eq_ok {accepted : Settings} (checks : settings.checked = .ok accepted) :
    accepted = settings ∧ settings.fault? = none := by
  unfold checked at checks
  split at checks
  · cases checks
  · next none => exact ⟨(Except.ok.inj checks).symm, none⟩

theorem ofText_eq_ok {path text : String} (notBlank : Text.isBlankText text = false)
    (holds : Yaml.ofChars? text.toList = some settings) (faultless : settings.fault? = none) :
    ofText path text = .ok settings := by
  rw [ofText, notBlank, holds]
  simp [checked, faultless]

theorem deadline_orTimeout_background (now timeout : Nat) :
    (Context.background.orTimeout now (some timeout)).deadline = some (now + timeout) :=
  rfl

/-- The deadline that the gate gives an ask is the default deadline, in milliseconds. -/
theorem deadline_orTimeout {now : Instant} {deadline : Option Instant}
    (countable : settings.defaultDeadline? now = some deadline) :
    (Context.background.orTimeout now.millis settings.gateSettings.defaultTimeout).deadline =
      deadline.map Instant.millis := by
  unfold defaultDeadline? timeoutSpan at countable
  unfold gateSettings
  cases timeout : settings.questionTimeoutSeconds with
  | none =>
    rw [timeout] at countable
    obtain rfl := Option.some_inj.mp countable
    rfl
  | some seconds =>
    rw [timeout] at countable
    obtain ⟨instant, after, rfl⟩ := Option.map_eq_some_iff.mp countable
    rw [Instant.after?_ofSeconds] at after
    split at after
    · obtain rfl := Option.some_inj.mp after
      have sum : now.millis + seconds * 1000 =
          (now.seconds + seconds) * 1000 + now.nanos / 1000000 := by
        unfold Instant.millis
        omega
      rw [Option.map_some, deadline_orTimeout_background, sum]
      rfl
    · cases after

/-! ### What can be run -/

end Settings

end OperatorDesk
