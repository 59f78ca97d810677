/-
This file says that quitting the dashboard shuts the gate, and for good. The shell's flag and the
gate go together: the operator's confirmation sets the flag, and the same dispatch shuts the gate
down, which nothing opens again. No other use of the desk sets the flag, whatever news it brings.
-/

import OperatorDesk.Proofs.Desk.Using
import OperatorDesk.Proofs.Gate.Shutdown
import OperatorDesk.Proofs.Shell.Quitting

namespace OperatorDesk

/-! ### News and the flag -/

namespace Shell

variable {Picture : Type} {shell : Shell Picture}

theorem quitting_hear {notice : Notice} (noKey : notice.key? = none) :
    (shell.hear notice).quitting = shell.quitting := by
  cases notice with
  | status text => rfl
  | event event =>
    have silent : (shell.update event).2 = none := asks_nothing fun key isKey => by
      rw [isKey] at noKey
      cases noKey
    rw [Bool.eq_iff_iff]
    show (shell.update event).1.quitting = true ↔ _
    rw [quitting_update_iff, silent]
    exact or_iff_left nofun

/-- Without keys nothing makes the shell quit. -/
theorem quitting_hearAll {notices : List Notice} (noKeys : ∀ notice ∈ notices, notice.key? = none) :
    (shell.hearAll notices).quitting = shell.quitting := by
  induction notices generalizing shell with
  | nil => rfl
  | cons notice rest inductionHypothesis =>
    obtain ⟨noKey, noKeys⟩ := List.forall_mem_cons.mp noKeys
    exact (inductionHypothesis noKeys).trans (quitting_hear noKey)

end Shell

namespace Desk

variable {Picture : Type} {desk : Desk Picture}

theorem key?_of_mem_pollNotices {notice : Notice} (member : notice ∈ desk.pollNotices) :
    notice.key? = none := by
  rcases List.mem_append.mp member with asked | retracted
  · obtain ⟨question, -, rfl⟩ := List.mem_map.mp asked
    rfl
  · obtain ⟨id, -, rfl⟩ := List.mem_map.mp retracted
    rfl

theorem key?_of_mem_notices {action : Option Action} {notice : Notice}
    (member : notice ∈ desk.notices action) : notice.key? = none := by
  unfold notices at member
  split at member
  · next answer =>
    rcases verdictNotices_cases answer.questionId (desk.gate.submit answer).2 with
      nothing | ⟨only, one, judges⟩
    · rw [nothing] at member
      cases member
    · rw [one, List.mem_singleton] at member
      rw [member]
      cases judges <;> rfl
  · cases member

theorem shouldQuit_poll (desk : Desk Picture) : desk.poll.1.shouldQuit = desk.shouldQuit := by
  rw [shouldQuit, shell_poll]
  exact Shell.quitting_hearAll fun _ => key?_of_mem_pollNotices

theorem shouldQuit_dispatch (desk : Desk Picture) (event : Event) :
    (desk.dispatch event).shouldQuit = (desk.shell.update event).1.quitting := by
  rw [shouldQuit, shell_dispatch]
  exact Shell.quitting_hearAll fun _ => key?_of_mem_notices

/-! ### The flag and the gate -/

/-- The operator has quit after a use if this was so before, or if it was confirmed just now. -/
theorem shouldQuit_use {use : Use} (quit : (desk.use use).shouldQuit = true) :
    desk.shouldQuit = true ∨
      ∃ event, use = .dispatch event ∧ (desk.shell.update event).2 = some .quit := by
  cases use with
  | outside move => exact Or.inl quit
  | poll => exact Or.inl ((shouldQuit_poll desk).symm.trans quit)
  | dispatch event =>
    have now := (shouldQuit_dispatch desk event).symm.trans quit
    exact (Shell.quitting_update_iff.mp now).imp_right fun quits => ⟨event, rfl, quits⟩

/-- The gate is in order, and it is shut down if the operator has quit. -/
structure Locked (desk : Desk Picture) : Prop where
  gate : desk.gate.Orderly []
  closed : desk.shouldQuit = true → desk.gate.closed = true

theorem Locked.use (locked : desk.Locked) (use : Use) : (desk.use use).Locked := by
  refine ⟨orderly_use locked.gate use, fun quit => ?_⟩
  rcases shouldQuit_use quit with already | ⟨event, rfl, quits⟩
  · obtain ⟨moves, run⟩ := exists_gate_use desk use
    rw [run]
    exact (locked.gate.closed_for_good (locked.closed already) moves).1
  · show (desk.dispatch event).gate.closed = true
    rw [gate_dispatch, quits]
    obtain ⟨_, _, _, _, _, -, same⟩ := Gate.shutdown_frame desk.gate
    show desk.gate.shutdown.closed = true
    rw [same]

theorem locked_new (embed : Dashboard → Picture) (settings : GateSettings)
    (before : List Gate.Move) (compactBelow : Nat) :
    (Desk.new embed ((Gate.new settings).run before) compactBelow).Locked where
  gate := (Gate.orderly_run settings before).takeSeat
  closed := nofun

/-! ### After quitting -/

/-- The desk is done with: its shell stays as it is and its gate stays shut. Once the gate is at
rest nobody waits there, and it comes to rest when everybody has had a turn. -/
structure DoneWith (desk later : Desk Picture) : Prop where
  shell : later.shell = desk.shell
  closed : later.gate.closed = true
  idle : later.gate.Over
  nobody : later.gate.AtRest → ∀ id, ¬later.gate.isSuspended id
  rests : (later.gate.run later.gate.everyTurn).AtRest
  leaves : ∀ id, ¬(later.gate.run later.gate.everyTurn).isSuspended id

theorem shell_use_of_quitting (quit : desk.shell.quitting = true) (use : Use) :
    (desk.use use).shell = desk.shell := by
  cases use with
  | outside move => rfl
  | poll => exact shell_poll_of_quitting quit
  | dispatch event =>
    show (desk.dispatch event).shell = desk.shell
    rw [dispatch, Shell.update_of_quitting quit]

theorem shell_useAll_of_quitting (quit : desk.shell.quitting = true) (uses : List Use) :
    (desk.useAll uses).shell = desk.shell := by
  refine keep_useAll (fun later => later.shell = desk.shell) (fun same use => ?_) rfl uses
  exact (shell_use_of_quitting (same ▸ quit) use).trans same

theorem Locked.doneWith (locked : desk.Locked) (quit : desk.shouldQuit = true)
    (more : List Use) : desk.DoneWith (desk.useAll more) := by
  have shell := shell_useAll_of_quitting quit more
  obtain ⟨orderly, closes⟩ := keep_useAll Locked Locked.use locked more
  have closed : (desk.useAll more).gate.closed = true := by
    refine closes ?_
    rw [shouldQuit, shell]
    exact quit
  have rests := orderly.atRest_everyTurn closed
  exact {
    shell, closed, rests
    idle := orderly.over closed
    nobody := fun atRest => atRest.not_isSuspended_of_closed orderly closed
    leaves := rests.not_isSuspended_of_closed (orderly.run _).1
      (orderly.closed_for_good closed _).1 }

/-- A shell asks to quit once at most, when the operator confirms it, and is deaf from then on. When
the operator of a desk has quit, whatever was done with it before, its gate is shut down; whatever
is done with it later, nothing is shown differently and nobody goes on waiting. -/
theorem quits_for_good (embed : Dashboard → Picture) (settings : GateSettings)
    (before : List Gate.Move) (compactBelow : Nat) (uses : List Use) {desk : Desk Picture}
    (reached : (Desk.new embed ((Gate.new settings).run before) compactBelow).useAll uses =
      desk) :
    (∀ shell : Shell Picture, shell.QuitsOnce) ∧
      (desk.shouldQuit = true → ∀ more, desk.DoneWith (desk.useAll more)) := by
  have locked : desk.Locked :=
    reached ▸ keep_useAll Locked Locked.use (locked_new embed settings before compactBelow) uses
  exact ⟨Shell.quitsOnce, locked.doneWith⟩

/-- An agent asks, and the operator, who is typing the answer, presses Ctrl+C and Enter. -/
def quitsTyping : Desk Dashboard :=
  (Desk.new id ((Gate.new { capacity := 1, defaultTimeout := none }).run []) 120).useAll
    [.outside (.ask .background
        { Question.plain "Q-1" "Which store?" with allowsFreeText := true }),
      .outside (.poll 0), .poll, .dispatch (.key (.char 'i')), .dispatch .interrupt,
      .dispatch (.key .enter)]

/-- The agent waits still, and has its turn; then nobody waits. -/
theorem quits_for_good_typing :
    quitsTyping.gate.stage? 0 = some (.listening 1) ∧
      quitsTyping.DoneWith (quitsTyping.useAll [.outside (.poll 0)]) := by
  have quit : quitsTyping.shouldQuit = true := by decide
  have done := (quits_for_good id { capacity := 1, defaultTimeout := none } [] 120 _ rfl).2 quit
  exact ⟨by decide, done _⟩

end Desk

end OperatorDesk
