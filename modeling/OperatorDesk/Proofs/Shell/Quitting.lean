/-
This file says when the operator quits. The shell asks to quit if Enter is pressed while the
question whether to quit is on top, and never else; this happens once at most, because from then on
the shell is deaf. Whatever the operator is doing, Ctrl+C and Enter quit: Ctrl+C puts the question
whether to quit above a draft that is being typed, and no key reaches a composer from there.
-/

import OperatorDesk.Proofs.Shell.Acting

namespace OperatorDesk.Shell

variable {Picture : Type} {shell : Shell Picture} {event : Event}

/-! ### Confirming -/

/-- The operator confirms the question whether to quit. -/
def Confirms (shell : Shell Picture) (event : Event) : Prop :=
  shell.quitting = false ∧ event = .key .enter ∧ shell.topIs Overlay.confirmQuitKind = true

theorem overlays_of_topIs {kind : String} (isTop : shell.topIs kind = true) :
    ∃ top below, shell.overlays = top :: below ∧ top.kind = kind := by
  unfold topIs at isTop
  cases stack : shell.overlays with
  | nil =>
    rw [stack] at isTop
    cases isTop
  | cons top below =>
    rw [stack] at isTop
    exact ⟨top, below, rfl, beq_iff_eq.mp isTop⟩

/-- Under the question whether to quit no other question is asked. -/
theorem topQuestion?_of_confirming (isTop : shell.topIs Overlay.confirmQuitKind = true) :
    shell.topQuestion? = none := by
  obtain ⟨top, below, stack, isQuit⟩ := overlays_of_topIs isTop
  have other : top.kind ≠ Overlay.questionKind := by
    rw [isQuit]
    decide
  simp only [topQuestion?, stack, if_neg other]

theorem update_of_confirms (confirms : shell.Confirms event) :
    shell.update event = ({ shell.popOverlay.1 with quitting := true }, some .quit) := by
  obtain ⟨going, rfl, isTop⟩ := confirms
  obtain ⟨top, below, stack, isQuit⟩ := overlays_of_topIs isTop
  rw [update_key going, press_of_no_question (topQuestion?_of_confirming isTop)]
  show shell.goAhead = _
  simp only [goAhead, stack, if_pos isQuit]

theorem quits_iff_confirms : (shell.update event).2 = some .quit ↔ shell.Confirms event := by
  constructor
  · intro quits
    rcases update_cases shell event with ⟨key, rfl, going, presses⟩ | ⟨silent, -⟩
    · generalize shell.update (.key key) = result at presses quits
      cases presses with
      | nothing => cases quits
      | quit _ confirms => exact ⟨going, rfl, confirms⟩
      | answer => cases quits
    · rw [silent] at quits
      cases quits
  · intro confirms
    rw [update_of_confirms confirms]

/-! ### Having quit -/

/-- The shell has quit after an event if it had before, or if it now asks to. -/
theorem quitting_update_iff : (shell.update event).1.quitting = true ↔
    shell.quitting = true ∨ (shell.update event).2 = some .quit := by
  rcases update_cases shell event with ⟨key, rfl, going, presses⟩ | ⟨silent, same⟩
  · generalize shell.update (.key key) = result at presses
    rw [going]
    cases presses with
    | nothing _ later same =>
      have stays : later.quitting = false := (congrArg Prod.snd same).trans going
      simp only [stays, reduceCtorEq, or_self]
    | quit _ _ done => exact iff_of_true (congrArg Prod.snd done) (Or.inr rfl)
    | answer _ _ composer answer =>
      have same := queue_sendAnswer { shell with composer := some composer } answer
      have stays := (congrArg Prod.snd same).trans going
      exact iff_of_false (Bool.eq_false_iff.mp stays) (by rintro (⟨⟨⟩⟩ | ⟨⟨⟩⟩))
  · rw [silent, same]
    simp only [reduceCtorEq, or_false]

/-! ### Sequences of events -/

theorem updateAll_cons (shell : Shell Picture) (event : Event) (rest : List Event) :
    shell.updateAll (event :: rest) =
      (((shell.update event).1.updateAll rest).1,
        (shell.update event).2.toList ++ ((shell.update event).1.updateAll rest).2) :=
  rfl

theorem updateAll_of_quitting (quit : shell.quitting = true) (events : List Event) :
    shell.updateAll events = (shell, []) := by
  induction events with
  | nil => rfl
  | cons event rest inductionHypothesis =>
    rw [updateAll_cons, update_of_quitting quit event, inductionHypothesis]
    rfl

/-- The shell has quit after some events if it had before, or if it has asked to. -/
theorem quitting_updateAll_iff (events : List Event) :
    (shell.updateAll events).1.quitting = true ↔
      shell.quitting = true ∨ .quit ∈ (shell.updateAll events).2 := by
  induction events generalizing shell with
  | nil => exact (or_iff_left List.not_mem_nil).symm
  | cons event rest inductionHypothesis =>
    rw [updateAll_cons, inductionHypothesis, quitting_update_iff, List.mem_append,
      Option.mem_toList, or_assoc]

/-- The shell asks to quit once at most: when it has asked, it hears nothing more. -/
theorem count_quit_updateAll (shell : Shell Picture) (events : List Event) :
    (shell.updateAll events).2.count .quit ≤ 1 := by
  induction events generalizing shell with
  | nil => exact Nat.zero_le 1
  | cons event rest inductionHypothesis =>
    rw [updateAll_cons]
    by_cases quits : (shell.update event).2 = some .quit
    · have done := quitting_update_iff.mpr (Or.inr quits)
      rw [quits, updateAll_of_quitting done]
      show [Action.quit].count .quit ≤ 1
      decide
    · have other : (shell.update event).2.toList.count .quit = 0 :=
        List.count_eq_zero.mpr fun member => quits (Option.mem_toList.mp member)
      rw [List.count_append, other, Nat.zero_add]
      exact inductionHypothesis _

/-- In a sequence of events the shell asks to quit where one of them confirms it. -/
theorem quit_mem_updateAll_iff (events : List Event) :
    .quit ∈ (shell.updateAll events).2 ↔ ∃ first event rest, events = first ++ event :: rest ∧
      (shell.updateAll first).1.Confirms event := by
  induction events generalizing shell with
  | nil =>
    refine iff_of_false List.not_mem_nil ?_
    rintro ⟨first, _, _, same, -⟩
    cases first <;> cases same
  | cons event rest inductionHypothesis =>
    rw [updateAll_cons, List.mem_append, Option.mem_toList, inductionHypothesis]
    constructor
    · rintro (quits | ⟨first, later, last, rfl, confirms⟩)
      · exact ⟨[], event, rest, rfl, quits_iff_confirms.mp quits⟩
      · exact ⟨event :: first, later, last, rfl, confirms⟩
    · rintro ⟨first, later, last, same, confirms⟩
      cases first with
      | nil =>
        cases same
        exact Or.inl (quits_iff_confirms.mpr confirms)
      | cons head tail =>
        cases same
        exact Or.inr ⟨tail, later, last, rfl, confirms⟩

/-! ### Interrupting -/

theorem topIs_requestQuit (shell : Shell Picture) :
    shell.requestQuit.topIs Overlay.confirmQuitKind = true := by
  unfold requestQuit
  split
  · next isTop => exact isTop
  · have hasKind : ¬Overlay.confirmQuit.kind.isEmpty = true := by decide
    rw [pushOverlay, if_neg hasKind]
    rfl

/-- Whatever the operator was doing, Ctrl+C and Enter quit. -/
theorem updateAll_interrupt_enter (going : shell.quitting = false) :
    ∃ later, shell.updateAll [.interrupt, .key .enter] = (later, [.quit]) ∧
      later.quitting = true := by
  have confirms : shell.requestQuit.Confirms (.key .enter) :=
    ⟨(congrArg Prod.snd (queue_requestQuit shell)).trans going, rfl, topIs_requestQuit shell⟩
  refine ⟨{ shell.requestQuit.popOverlay.1 with quitting := true }, ?_, rfl⟩
  rw [updateAll_cons, update_interrupt going, updateAll_cons, update_of_confirms confirms]
  rfl

/-! ### All of it -/

/-- The shell asks to quit when the operator confirms, and never else. -/
structure QuitsOnce (shell : Shell Picture) : Prop where
  confirmed : ∀ event, (shell.update event).2 = some .quit ↔ shell.Confirms event
  arises : ∀ events, .quit ∈ (shell.updateAll events).2 ↔
    ∃ first event rest, events = first ++ event :: rest ∧
      (shell.updateAll first).1.Confirms event
  once : ∀ events, (shell.updateAll events).2.count .quit ≤ 1
  /-- It has quit once it has asked to, and not before. -/
  holds : ∀ events, (shell.updateAll events).1.quitting = true ↔
    shell.quitting = true ∨ .quit ∈ (shell.updateAll events).2
  /-- When it has quit, nothing changes and nothing is asked for any more. -/
  deaf : shell.quitting = true → ∀ events, shell.updateAll events = (shell, [])
  interrupted : shell.quitting = false → ∃ later,
    shell.updateAll [.interrupt, .key .enter] = (later, [.quit]) ∧ later.quitting = true

theorem quitsOnce (shell : Shell Picture) : shell.QuitsOnce where
  confirmed := fun _ => quits_iff_confirms
  arises := quit_mem_updateAll_iff
  once := count_quit_updateAll shell
  holds := quitting_updateAll_iff
  deaf := updateAll_of_quitting
  interrupted := updateAll_interrupt_enter

end OperatorDesk.Shell
