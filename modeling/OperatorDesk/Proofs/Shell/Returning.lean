/-
This file shows that Esc always leads home, to the root view without overlays. Closing an overlay
may uncover stale ones, which go with it, and then the next question is laid on top; still, each Esc
that closes something leaves fewer overlays behind. Besides, Esc may only leave a draft. That
happens once at most, because there is one composer, and one that takes its place is not typing.
-/

import OperatorDesk.Proofs.Shell.Coherence
import OperatorDesk.Proofs.Shell.Quitting

namespace OperatorDesk.Shell

variable {Picture : Type} {shell later : Shell Picture}

/-! ### The way home -/

/-- The shell shows the root view, and nothing lies above it. -/
def IsHome (shell : Shell Picture) : Prop :=
  shell.overlays = [] ∧ shell.opened = []

/-- Keys go into the draft of the composer, once its question is on top. -/
def isTyping (shell : Shell Picture) : Bool :=
  shell.composer.any Composer.editing

/-- So often Esc has to be pressed at most: once for each overlay and each opened view, and once
more to leave a draft. -/
def distanceHome (shell : Shell Picture) : Nat :=
  shell.overlays.length + shell.opened.length + shell.isTyping.toNat

/-- There are at most so many overlays more, and nothing else to leave that was not there. -/
structure Piles (extra : Nat) (shell later : Shell Picture) : Prop where
  overlays : later.overlays.length ≤ shell.overlays.length + extra
  root : later.root = shell.root
  opened : later.opened = shell.opened
  typing : later.isTyping = true → shell.isTyping = true

theorem Piles.refl (extra : Nat) (shell : Shell Picture) : Piles extra shell shell :=
  ⟨Nat.le_add_right _ _, rfl, rfl, id⟩

theorem Piles.distanceHome_le {extra : Nat} (piles : Piles extra shell later) :
    later.distanceHome ≤ shell.distanceHome + extra := by
  have typing : later.isTyping.toNat ≤ shell.isTyping.toNat := by
    cases isTyping : later.isTyping with
    | false => exact Nat.zero_le _
    | true => rw [piles.typing isTyping]
  have overlays := piles.overlays
  unfold distanceHome
  rw [piles.opened]
  omega

/-! ### What is laid on top, and what goes -/

/-- A composer that is typing has been kept, for a new one is not. -/
theorem isTyping_of_composerFor {id : String} (typing : (shell.composerFor id).editing = true) :
    shell.isTyping = true := by
  unfold composerFor at typing
  unfold isTyping
  cases isComposer : shell.composer with
  | none =>
    rw [isComposer] at typing
    cases typing
  | some composer =>
    simp only [isComposer] at typing
    split at typing
    · exact typing
    · cases typing

theorem piles_openQuestion (shell : Shell Picture) (id : String) :
    Piles 1 shell (shell.openQuestion id) := by
  rw [openQuestion_eq]
  split
  · exact .refl 1 shell
  · exact ⟨Nat.le_refl _, rfl, rfl, isTyping_of_composerFor⟩

theorem piles_surface (shell : Shell Picture) : Piles 1 shell shell.surface := by
  unfold surface
  split
  · exact .refl 1 shell
  · unfold openFront
    split
    · exact .refl 1 shell
    · exact piles_openQuestion shell _

/-- The question that is laid on top takes the place of a stale overlay. -/
theorem piles_settle (shell : Shell Picture) : Piles 0 shell shell.settle := by
  unfold settle
  simp only
  split
  · exact .refl 0 shell
  · next changed =>
    have fewer := (List.dropWhile_suffix (l := shell.overlays) shell.isStale).length_le
    have piles := piles_surface { shell with overlays := shell.overlays.dropWhile shell.isStale }
    exact { piles with overlays := piles.overlays.trans (Nat.lt_of_le_of_ne fewer changed) }

/-! ### One Esc -/

/-- An Esc asks for nothing and leaves the questions alone. It leads nearer home, and at home it
changes nothing. -/
structure Retreats (shell later : Shell Picture) : Prop where
  queue : later.queue = shell.queue
  root : later.root = shell.root
  nearer : ¬shell.IsHome → later.distanceHome < shell.distanceHome
  stays : shell.IsHome → later = shell

theorem retreats_goBack (shell : Shell Picture) : Retreats shell shell.goBack := by
  have queue := queue_goBack shell
  unfold goBack at queue ⊢
  split
  · next nothing =>
    have bare : shell.overlays = [] := List.isEmpty_iff.mp nothing
    refine ⟨rfl, rfl, fun away => ?_, fun home => ?_⟩
    · have above : shell.opened ≠ [] := fun none => away ⟨bare, none⟩
      have fewer : shell.opened.tail.length < shell.opened.length := by
        rw [List.length_tail]
        exact Nat.sub_lt (List.length_pos_iff.mpr above) Nat.one_pos
      exact Nat.add_lt_add_right (Nat.add_lt_add_left fewer _) _
    · show { shell with opened := shell.opened.tail } = shell
      rw [home.2, List.tail_nil, ← home.2]
  · next some =>
    have piles := piles_settle shell.popOverlay.1
    have fewer : shell.popOverlay.1.distanceHome < shell.distanceHome := by
      have above : 0 < shell.overlays.length :=
        List.length_pos_iff.mpr (mt List.isEmpty_iff.mpr some)
      have popped : shell.popOverlay.1.overlays.length < shell.overlays.length := by
        show shell.overlays.tail.length < _
        rw [List.length_tail]
        exact Nat.sub_lt above Nat.one_pos
      exact Nat.add_lt_add_right (Nat.add_lt_add_right popped _) _
    rw [if_neg some] at queue
    exact ⟨queue, piles.root, fun _ => Nat.lt_of_le_of_lt piles.distanceHome_le fewer,
      fun home => absurd (List.isEmpty_iff.mpr home.1) some⟩

/-- With its question on top, a composer that is typing uses the Esc up; any other leaves it to the
shell. -/
theorem press_esc (composer : Composer) (question : Question) :
    composer.press question .esc =
      if composer.editing then ({ composer with editing := false }, .handled)
      else (composer, .ignored) := by
  unfold Composer.press
  split <;> rfl

theorem retreats_press (shell : Shell Picture) :
    ∃ later, shell.press .esc = (later, none) ∧ Retreats shell later := by
  cases onTop : shell.topQuestion? with
  | none => exact ⟨shell.goBack, press_of_no_question onTop .esc, retreats_goBack shell⟩
  | some question =>
    obtain ⟨top, below, stack, -⟩ := overlays_of_topQuestion? onTop
    have away : ¬shell.IsHome := fun home => absurd (stack.symm.trans home.1) (List.cons_ne_nil _ _)
    rw [press_of_topQuestion? onTop, press_esc]
    cases typing : (shell.composerFor question.id).editing with
    | true =>
      have wasTyping := isTyping_of_composerFor typing
      refine ⟨_, rfl, rfl, rfl, fun _ => ?_, fun home => absurd home away⟩
      unfold distanceHome
      rw [wasTyping]
      exact Nat.lt_succ_self _
    | false =>
      let rested : Shell Picture := { shell with composer := some (shell.composerFor question.id) }
      have piles : Piles 0 shell rested := ⟨Nat.le_refl _, rfl, rfl, isTyping_of_composerFor⟩
      have retreats := retreats_goBack rested
      refine ⟨rested.goBack, rfl, retreats.queue, retreats.root, fun _ => ?_,
        fun home => absurd home away⟩
      exact Nat.lt_of_lt_of_le (retreats.nearer away) piles.distanceHome_le

/-! ### Esc after Esc -/

/-- The operator presses Esc so many times. -/
def escapes (count : Nat) : List Event :=
  List.replicate count (.key .esc)

theorem updateAll_escapes_succ (going : shell.quitting = false) (count : Nat) :
    ∃ later, shell.updateAll (escapes (count + 1)) = later.updateAll (escapes count) ∧
      Retreats shell later := by
  obtain ⟨later, pressed, retreats⟩ := retreats_press shell
  refine ⟨later, ?_, retreats⟩
  rw [escapes, List.replicate_succ, updateAll_cons, update_key going, pressed]
  rfl

/-- At home Esc changes nothing. -/
theorem updateAll_escapes_of_isHome (going : shell.quitting = false) (home : shell.IsHome)
    (count : Nat) : shell.updateAll (escapes count) = (shell, []) := by
  induction count with
  | zero => rfl
  | succ count inductionHypothesis =>
    obtain ⟨later, first, retreats⟩ := updateAll_escapes_succ going count
    rw [first, retreats.stays home, inductionHypothesis]

/-- Esc pressed as often as home is far leads home. -/
theorem updateAll_escapes (going : shell.quitting = false) {count : Nat}
    (enough : shell.distanceHome ≤ count) :
    ∃ home, shell.updateAll (escapes count) = (home, []) ∧ home.IsHome ∧
      home.queue = shell.queue ∧ home.root = shell.root := by
  induction count generalizing shell with
  | zero =>
    have near : shell.overlays.length + shell.opened.length = 0 :=
      (Nat.add_eq_zero_iff.mp (Nat.le_zero.mp enough)).1
    obtain ⟨bare, closed⟩ := Nat.add_eq_zero_iff.mp near
    exact ⟨shell, rfl, ⟨List.length_eq_zero_iff.mp bare, List.length_eq_zero_iff.mp closed⟩,
      rfl, rfl⟩
  | succ count inductionHypothesis =>
    by_cases isHome : shell.IsHome
    · exact ⟨shell, updateAll_escapes_of_isHome going isHome _, isHome, rfl, rfl⟩
    obtain ⟨later, first, retreats⟩ := updateAll_escapes_succ going count
    have stillGoing : later.quitting = false := (congrArg Prod.snd retreats.queue).trans going
    have nearer : later.distanceHome ≤ count :=
      Nat.le_of_lt_succ (Nat.lt_of_lt_of_le (retreats.nearer isHome) enough)
    obtain ⟨home, rest, isHome, queue, root⟩ := inductionHypothesis stillGoing nearer
    exact ⟨home, first.trans rest, isHome, queue.trans retreats.queue, root.trans retreats.root⟩

/-- Home is no farther than the overlays, the two views that can lie above the root, and a draft. -/
theorem Coherent.distanceHome_le {root : String} (coherent : Coherent root shell) :
    shell.distanceHome ≤ shell.overlays.length + 3 := by
  have views := coherent.opened_length
  have typing := Bool.toNat_le shell.isTyping
  unfold distanceHome
  omega

/-- Whatever was done to a shell, unless the operator has quit: Esc pressed twice for each overlay
and three times more leaves nothing but the root view. On the way the shell asks for nothing, and
the questions stay queued in their order; afterwards Esc changes nothing any more. -/
theorem esc_leads_home (root : String) (operations : List (Operation Picture))
    (reached : (start root).run operations = shell) (going : shell.quitting = false) :
    ∃ home, shell.updateAll (escapes (2 * shell.overlays.length + 3)) = (home, []) ∧
      home.overlays = [] ∧ home.viewStack = [root] ∧ home.questions = shell.questions ∧
      ∀ further, home.updateAll (escapes further) = (home, []) := by
  have coherent : Coherent root shell := reached ▸ coherent_run root operations
  have enough : shell.distanceHome ≤ 2 * shell.overlays.length + 3 := by
    have near := coherent.distanceHome_le
    omega
  obtain ⟨home, escaped, isHome, queue, sameRoot⟩ := updateAll_escapes going enough
  have isRoot : shell.root = root := Option.some_inj.mp coherent.bottom
  have stillGoing : home.quitting = false := (congrArg Prod.snd queue).trans going
  refine ⟨home, escaped, isHome.1, ?_, congrArg Prod.fst queue,
    updateAll_escapes_of_isHome stillGoing isHome⟩
  rw [viewStack, isHome.2, sameRoot, isRoot]
  rfl

/-- Under the key reference lies a question that was answered elsewhere, and the next one is on top
with a draft in its composer. -/
def drafting : List (Operation Unit) :=
  [.pushView "mission", .update (.asked (.plain "Q-1" "Which store?")),
    .update (.key (.char '?')),
    .update (.asked { Question.plain "Q-2" "Which name?" with allowsFreeText := true }),
    .update (.accepted "Q-1"), .update (.key (.char 'i')), .update (.key (.char 'x'))]

/-- The third Esc closes the key reference, drops the answered question and lays the other one on
top once more. -/
theorem esc_leads_home_drafting :
    ((start "fleet").run drafting).overlays = [.question "Q-2", .help, .question "Q-1"] ∧
      (((start "fleet").run drafting).updateAll (escapes 3)).1.overlays = [.question "Q-2"] ∧
      ∃ home, ((start "fleet").run drafting).updateAll (escapes 9) = (home, []) ∧
        home.viewStack = ["fleet"] ∧ home.questions.map Question.id = ["Q-2"] := by
  have going : ((start "fleet").run drafting).quitting = false := by decide
  obtain ⟨home, escaped, -, bottom, questions, -⟩ := esc_leads_home "fleet" drafting rfl going
  refine ⟨by decide, by decide, home, escaped, bottom, ?_⟩
  rw [questions]
  decide

end OperatorDesk.Shell
