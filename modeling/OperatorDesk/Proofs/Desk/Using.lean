/-
This file says what using a desk keeps in order. Whatever is done with it, the gate has made some of
its own moves and the shell has heard some notices; so the gate is in order, and if the shell began
without overlays, none lies where it would repeat another.
-/

import OperatorDesk.Desk.Run
import OperatorDesk.Proofs.Desk.Course
import OperatorDesk.Proofs.Desk.Hearing
import OperatorDesk.Proofs.Shell.Stacking

namespace OperatorDesk

/-- Whatever the shell is let know, no overlay comes to lie where it would repeat another. -/
theorem Shell.Unrepeated.hearAll {Picture : Type} {shell : Shell Picture}
    (unrepeated : Shell.Unrepeated shell.overlays) (notices : List Notice) :
    Shell.Unrepeated (shell.hearAll notices).overlays := by
  induction notices generalizing shell with
  | nil => exact unrepeated
  | cons notice rest inductionHypothesis =>
    refine inductionHypothesis ?_
    cases notice with
    | event event => exact unrepeated.update event
    | status text => exact unrepeated

namespace Desk

variable {Picture : Type} {desk : Desk Picture}

/-! ### The gate and the shell in a use -/

/-- Every use is a run of the gate. -/
theorem exists_gate_use (desk : Desk Picture) (use : Use) :
    ∃ moves, (desk.use use).gate = desk.gate.run moves := by
  cases use with
  | outside move => exact ⟨[move], rfl⟩
  | poll => exact ⟨_, gate_poll_eq_run desk⟩
  | dispatch event => exact ⟨_, gate_dispatch desk event⟩

/-- Every use lets the shell know something, or nothing. -/
theorem exists_shell_use (desk : Desk Picture) (use : Use) :
    ∃ notices, (desk.use use).shell = desk.shell.hearAll notices := by
  cases use with
  | outside move => exact ⟨[], rfl⟩
  | poll => exact ⟨_, shell_poll desk⟩
  | dispatch event => exact ⟨_, shell_dispatch desk event⟩

/-! ### What stays in order -/

/-- What every use keeps is kept by any number of them. -/
theorem keep_useAll (Holds : Desk Picture → Prop)
    (each : ∀ {before : Desk Picture}, Holds before → ∀ use, Holds (before.use use))
    (holds : Holds desk) (uses : List Use) : Holds (desk.useAll uses) := by
  induction uses generalizing desk with
  | nil => exact holds
  | cons use rest inductionHypothesis => exact inductionHypothesis (each holds use)

theorem orderly_use (orderly : desk.gate.Orderly []) (use : Use) :
    (desk.use use).gate.Orderly [] := by
  obtain ⟨moves, run⟩ := exists_gate_use desk use
  rw [run]
  exact (orderly.run moves).1

/-- The gate is in order, and so is the stack of overlays. -/
structure Sound (desk : Desk Picture) : Prop where
  gate : desk.gate.Orderly []
  overlays : Shell.Unrepeated desk.shell.overlays

theorem Sound.use (sound : desk.Sound) (use : Use) : (desk.use use).Sound := by
  obtain ⟨notices, hears⟩ := exists_shell_use desk use
  refine ⟨orderly_use sound.gate use, ?_⟩
  rw [hears]
  exact sound.overlays.hearAll notices

theorem sound_withShell {shell : Shell Picture} (empty : shell.overlays = [])
    (settings : GateSettings) (before : List Gate.Move) :
    (withShell shell ((Gate.new settings).run before)).Sound where
  gate := (Gate.orderly_run settings before).takeSeat
  overlays := empty ▸ Shell.unrepeated_nil

end Desk

end OperatorDesk
