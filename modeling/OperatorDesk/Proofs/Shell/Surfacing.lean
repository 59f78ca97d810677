/-
This file says when the questions that wait are out of sight, with none of them on the stack of
overlays. Only the operator can bring this about, by putting off the question on top or by answering
it: every other key leaves the waiting questions on the stack where they are, and news about a
question that is or was in the queue brings one into sight.
-/

import OperatorDesk.Proofs.Shell.Composing
import OperatorDesk.Proofs.Shell.Edits
import OperatorDesk.Proofs.Shell.Showing

namespace OperatorDesk.Shell

variable {Picture : Type} {shell later : Shell Picture}

/-- Questions wait, and no overlay on the stack shows any of them. -/
def Hidden (shell : Shell Picture) : Prop :=
  shell.questions ≠ [] ∧ shell.showsQuestion = false

instance (shell : Shell Picture) : Decidable shell.Hidden :=
  inferInstanceAs (Decidable (_ ∧ _))

/-! ### Keys that leave the questions on the stack -/

/-- The queue is the same, and what shows a waiting question stays on the stack. -/
structure KeepsShown (shell later : Shell Picture) : Prop where
  questions : later.questions = shell.questions
  stays : ∀ overlay ∈ shell.overlays, shell.isLive overlay = true → overlay ∈ later.overlays

theorem KeepsShown.refl (shell : Shell Picture) : KeepsShown shell shell :=
  ⟨rfl, fun _ member _ => member⟩

theorem KeepsShown.trans {last : Shell Picture} (first : KeepsShown shell later)
    (second : KeepsShown later last) : KeepsShown shell last where
  questions := second.questions.trans first.questions
  stays := fun overlay member live =>
    second.stays overlay (first.stays overlay member live)
      ((congrFun (isLive_congr first.questions) overlay).trans live)

/-- What was in sight remains in sight. -/
theorem KeepsShown.hidden (keeps : KeepsShown shell later) (hidden : later.Hidden) :
    shell.Hidden := by
  refine ⟨keeps.questions ▸ hidden.1, Bool.eq_false_iff.mpr fun shows => ?_⟩
  obtain ⟨overlay, member, live⟩ := showsQuestion_iff.mp shows
  have isLive : later.isLive overlay = true :=
    (congrFun (isLive_congr keeps.questions) overlay).trans live
  have stillShows := showsQuestion_iff.mpr ⟨overlay, keeps.stays overlay member live, isLive⟩
  exact Bool.false_ne_true (hidden.2.symm.trans stillShows)

theorem keepsShown_pushOverlay (shell : Shell Picture) (overlay : Overlay) :
    KeepsShown shell (shell.pushOverlay overlay) := by
  unfold pushOverlay
  split
  · exact .refl shell
  · exact ⟨rfl, fun _ member _ => List.mem_cons_of_mem _ member⟩

theorem keepsShown_openQuestion (shell : Shell Picture) (id : String) :
    KeepsShown shell (shell.openQuestion id) := by
  rw [openQuestion_eq]
  split
  · exact .refl shell
  · exact ⟨rfl, fun _ member _ => List.mem_cons_of_mem _ member⟩

theorem keepsShown_openFront (shell : Shell Picture) : KeepsShown shell shell.openFront := by
  unfold openFront
  split
  · exact .refl shell
  · exact keepsShown_openQuestion shell _

theorem keepsShown_surface (shell : Shell Picture) : KeepsShown shell shell.surface := by
  unfold surface
  split
  · exact .refl shell
  · exact keepsShown_openFront shell

/-- Taking away what is stale leaves what is live. -/
theorem mem_dropWhile_isStale {overlay : Overlay} {overlays : List Overlay}
    (member : overlay ∈ overlays) (live : shell.isLive overlay = true) :
    overlay ∈ overlays.dropWhile shell.isStale := by
  have fresh : shell.isStale overlay = false := isStale_eq_false_iff.mpr fun _ => live
  rw [← overlays.takeWhile_append_dropWhile (p := shell.isStale), List.mem_append] at member
  refine member.resolve_left fun taken => ?_
  exact absurd ((List.all_eq_true.mp List.all_takeWhile _ taken).symm.trans fresh) (by decide)

theorem keepsShown_settle (shell : Shell Picture) : KeepsShown shell shell.settle := by
  have drops : KeepsShown shell
      { shell with overlays := shell.overlays.dropWhile shell.isStale } :=
    ⟨rfl, fun _ member live => mem_dropWhile_isStale member live⟩
  unfold settle
  simp only
  split
  · exact .refl shell
  · exact drops.trans (keepsShown_surface _)

/-- No question shows on top, so the overlay on top can go. -/
theorem keepsShown_popOverlay (nothing : shell.topQuestion? = none) :
    KeepsShown shell shell.popOverlay.1 := by
  refine ⟨rfl, fun overlay member live => ?_⟩
  obtain ⟨isQuestion, id, shows, isQueued⟩ := isLive_iff.mp live
  unfold topQuestion? at nothing
  split at nothing
  · next stack => rw [stack] at member; cases member
  · next top below stack =>
    show overlay ∈ shell.overlays.tail
    rw [stack] at member ⊢
    refine (List.mem_cons.mp member).resolve_left ?_
    rintro rfl
    rw [if_pos isQuestion, shows, Option.bind_some, queued?, List.find?_eq_none] at nothing
    obtain ⟨question, waits, same⟩ := isQueued_iff.mp isQueued
    exact nothing question waits (beq_iff_eq.mpr same)

theorem keepsShown_goBack (nothing : shell.topQuestion? = none) :
    KeepsShown shell shell.goBack := by
  unfold goBack
  split
  · exact ⟨rfl, fun _ member _ => member⟩
  · exact (keepsShown_popOverlay nothing).trans (keepsShown_settle _)

theorem keepsShown_goAhead (nothing : shell.topQuestion? = none) :
    KeepsShown shell shell.goAhead.1 := by
  unfold goAhead
  split
  · split
    · exact ⟨rfl, (keepsShown_popOverlay nothing).stays⟩
    · exact (keepsShown_popOverlay nothing).trans (keepsShown_settle _)
  · split
    · next target _ =>
      refine ⟨congrArg Prod.fst (queue_pushView shell target), fun _ member _ => ?_⟩
      rw [overlays_pushView]
      exact member
    · exact .refl shell

theorem keepsShown_cycleFocus (shell : Shell Picture) (forward : Bool) :
    KeepsShown shell (shell.cycleFocus forward) := by
  unfold cycleFocus
  simp only
  split
  · exact .refl shell
  · exact ⟨rfl, fun _ member _ => member⟩

theorem keepsShown_requestHelp (shell : Shell Picture) : KeepsShown shell shell.requestHelp := by
  unfold requestHelp
  split
  · exact .refl shell
  · exact keepsShown_pushOverlay shell _

theorem keepsShown_requestQuit (shell : Shell Picture) : KeepsShown shell shell.requestQuit := by
  unfold requestQuit
  split
  · exact .refl shell
  · exact keepsShown_pushOverlay shell _

theorem keepsShown_requestQuestion (shell : Shell Picture) :
    KeepsShown shell shell.requestQuestion := by
  unfold requestQuestion
  split
  · exact ⟨rfl, fun _ member _ => member⟩
  · split
    · exact ⟨rfl, fun _ member _ => member⟩
    · exact keepsShown_openQuestion shell _

/-- A key that the composer did not use takes no waiting question off the stack, unless it is Esc
or Enter with a question on top. -/
theorem keepsShown_command {key : Key}
    (safe : shell.topQuestion? = none ∨ key ≠ .esc ∧ key ≠ .enter) :
    KeepsShown shell (shell.command key).1 := by
  unfold command
  split
  · exact keepsShown_cycleFocus shell true
  · exact keepsShown_cycleFocus shell false
  · exact keepsShown_goBack (safe.resolve_right fun other => other.1 rfl)
  · exact keepsShown_goAhead (safe.resolve_right fun other => other.2 rfl)
  · split
    · exact keepsShown_requestHelp shell
    split
    · exact keepsShown_requestQuit shell
    split
    · exact keepsShown_requestQuestion shell
    · exact .refl shell
  · exact .refl shell

/-- The operator puts off the question on top, with no draft being typed. -/
def PutsOff (shell : Shell Picture) (event : Event) : Prop :=
  event = .key .esc ∧ ∃ question, shell.topQuestion? = some question ∧
    (shell.composerFor question.id).editing = false

/-- A key takes the waiting questions out of sight only if it puts off the one on top or answers
it. -/
theorem hidden_press {key : Key} (hidden : (shell.press key).1.Hidden) :
    shell.Hidden ∨ shell.PutsOff (.key key) ∨
      ∃ answer, (shell.press key).2 = some (.submit answer) := by
  unfold press at hidden ⊢
  cases onTop : shell.topQuestion? with
  | none =>
    rw [onTop] at hidden
    exact Or.inl ((keepsShown_command (Or.inl onTop)).hidden hidden)
  | some question =>
    simp only [onTop] at hidden ⊢
    obtain ⟨composer, composed, pressed⟩ : ∃ composer composed,
        (shell.composerFor question.id).press question key = (composer, composed) := ⟨_, _, rfl⟩
    simp only [pressed] at hidden ⊢
    cases composed with
    | handled => exact Or.inl hidden
    | notice text => exact Or.inl hidden
    | submit answer => exact Or.inr (Or.inr ⟨answer, rfl⟩)
    | ignored =>
      have ignored : ((shell.composerFor question.id).press question key).2 = .ignored := by
        rw [pressed]
      by_cases isEsc : key = .esc
      · subst isEsc
        exact Or.inr (Or.inl ⟨rfl, question, onTop, Composer.editing_of_esc_ignored ignored⟩)
      · have notEnter : key ≠ .enter := by
          rintro rfl
          exact Composer.press_enter_ne_ignored _ question ignored
        have seen : ({ shell with composer := some composer } : Shell Picture).Hidden :=
          (keepsShown_command (Or.inr ⟨isEsc, notEnter⟩)).hidden hidden
        exact Or.inl seen

/-! ### News that brings a question into sight -/

theorem showsQuestion_openQuestion {id : String} (isQueued : shell.isQueued id = true) :
    (shell.openQuestion id).showsQuestion = true := by
  rw [openQuestion_eq]
  split
  · next present =>
    obtain ⟨overlay, member, isQuestion, shows⟩ := hasOverlayFor_iff.mp present
    exact showsQuestion_iff.mpr
      ⟨overlay, member, isLive_iff.mpr ⟨isQuestion, id, shows, isQueued⟩⟩
  · exact showsQuestion_iff.mpr ⟨.question id, List.mem_cons_self, isLive_question isQueued⟩

theorem not_hidden_openQuestion {id : String} (isQueued : shell.isQueued id = true) :
    ¬(shell.openQuestion id).Hidden :=
  fun hidden => Bool.false_ne_true (hidden.2.symm.trans (showsQuestion_openQuestion isQueued))

theorem not_hidden_surface (shell : Shell Picture) : ¬shell.surface.Hidden := by
  unfold surface
  split
  · next shows => exact fun hidden => Bool.false_ne_true (hidden.2.symm.trans shows)
  · unfold openFront
    split
    · next nothing => exact fun hidden => hidden.1 nothing
    · next next => exact not_hidden_openQuestion (isQueued_front next)

/-- News that is about a question in the queue, or that is to be followed by the next question. -/
inductive Announces (shell : Shell Picture) : Event → Prop where
  | asked (question : Question) (isNew : shell.isQueued question.id = false) :
    Announces shell (.asked question)
  | accepted (id : String) : Announces shell (.accepted id)
  | retracted (id : String) (isQueued : shell.isQueued id = true) : Announces shell (.retracted id)
  | rejected (id reason : String) (isQueued : shell.isQueued id = true) :
    Announces shell (.rejected id reason)

theorem not_hidden_of_announces {event : Event} (going : shell.quitting = false)
    (announces : shell.Announces event) : ¬(shell.update event).1.Hidden := by
  cases announces with
  | asked question isNew =>
    rw [update_asked going, hearAsked, if_neg (Bool.eq_false_iff.mp isNew)]
    exact not_hidden_surface _
  | accepted id =>
    rw [update_accepted going]
    exact not_hidden_surface _
  | retracted id isQueued =>
    rw [update_retracted going, hearRetracted, if_pos isQueued]
    exact not_hidden_surface _
  | rejected id reason isQueued =>
    rw [update_rejected going, hearRejected, if_pos isQueued]
    have waits : (shell.blame id reason).isQueued id = true := isQueued
    exact not_hidden_openQuestion waits

/-- Any other news takes no waiting question off the stack. -/
theorem announces_or_keepsShown {event : Event} (going : shell.quitting = false)
    (news : ∀ key, event ≠ .key key) :
    shell.Announces event ∨ KeepsShown shell (shell.update event).1 := by
  cases event with
  | key key => exact absurd rfl (news key)
  | interrupt =>
    rw [update_interrupt going]
    exact Or.inr (keepsShown_requestQuit shell)
  | resize width height =>
    rw [update_resize going]
    exact Or.inr ⟨rfl, fun _ member _ => member⟩
  | accepted id => exact Or.inl (.accepted id)
  | asked question =>
    cases isQueued : shell.isQueued question.id with
    | false => exact Or.inl (.asked question isQueued)
    | true =>
      rw [update_asked going, hearAsked, if_pos isQueued]
      exact Or.inr (.refl shell)
  | rejected id reason =>
    cases isQueued : shell.isQueued id with
    | true => exact Or.inl (.rejected id reason isQueued)
    | false =>
      rw [update_rejected going, hearRejected, if_neg (Bool.eq_false_iff.mp isQueued)]
      exact Or.inr (.refl shell)
  | retracted id =>
    cases isQueued : shell.isQueued id with
    | true => exact Or.inl (.retracted id isQueued)
    | false =>
      rw [update_retracted going, hearRetracted, if_neg (Bool.eq_false_iff.mp isQueued)]
      exact Or.inr ⟨questions_removeQuestion_of_absent isQueued, fun _ member _ => member⟩

/-! ### Events -/

/-- The waiting questions get out of sight only if the operator puts off the one on top or answers
it; and while the operator has not quit, one is in sight after any news of a queued question. -/
theorem hidden_only_by_operator (shell : Shell Picture) (event : Event) :
    (¬shell.Hidden → (shell.update event).1.Hidden →
      shell.PutsOff event ∨ ∃ answer, (shell.update event).2 = some (.submit answer)) ∧
    (shell.quitting = false → shell.Announces event → ¬(shell.update event).1.Hidden) := by
  refine ⟨fun seen hidden => ?_, not_hidden_of_announces⟩
  cases going : shell.quitting with
  | true =>
    rw [update_of_quitting going] at hidden
    exact absurd hidden seen
  | false =>
    by_cases isKey : ∃ key, event = .key key
    · obtain ⟨key, rfl⟩ := isKey
      rw [update_key going] at hidden ⊢
      exact (hidden_press hidden).resolve_left seen
    · rcases announces_or_keepsShown going fun key same => isKey ⟨key, same⟩ with
        announces | keeps
      · exact absurd hidden (not_hidden_of_announces going announces)
      · exact absurd (keeps.hidden hidden) seen

/-- A question has been asked. -/
def askedOnce : Shell Unit :=
  ((start "fleet").update (.asked (.plain "Q-1" "Which store?"))).1

/-- The question gets out of sight when it is put off, and into sight when the next one is asked. -/
theorem hidden_only_by_operator_putting_off :
    (askedOnce.update (.key .esc)).1.Hidden ∧ askedOnce.PutsOff (.key .esc) ∧
      ¬((askedOnce.update (.key .esc)).1.update (.asked (.plain "Q-2" "Which name?"))).1.Hidden := by
  have hidden : (askedOnce.update (.key .esc)).1.Hidden := by decide
  have sends : ¬∃ answer, (askedOnce.update (.key .esc)).2 = some (.submit answer) := by
    rintro ⟨answer, sends⟩
    cases sends
  have byOperator := (hidden_only_by_operator askedOnce (.key .esc)).1 (by decide) hidden
  refine ⟨hidden, byOperator.resolve_right sends, ?_⟩
  exact (hidden_only_by_operator _ _).2 (by decide) (.asked _ (by decide))

end OperatorDesk.Shell
