/-
This file says that the operator answers what is shown. The body of the overlay on top is written
from the very composer that the next key goes to: the marked option is the one that Enter selects, a
digit selects the option with that number, the draft that is open is the one that is sent, and the
answer is broadcast exactly if the body says so. The marker stands at the highlighted option, while
Enter takes the last option if the highlight lies past the end; both are the same option because the
highlight never does.
-/

import Mathlib.Tactic.IntervalCases
import OperatorDesk.Shell.Rendering
import OperatorDesk.Proofs.Shell.Submitting

namespace OperatorDesk

/-! ### What a composer shows -/

namespace Composer

variable {composer : Composer} {question : Question}

/-- The line carries the marker, which stands after the first blank. -/
def Marked (line : String) : Prop :=
  line.toList[1]? = some '>'

theorem marked_optionLine (marked : Bool) (index : Nat) (option : String) :
    Marked (optionLine marked index option) ↔ marked = true := by
  have second : (optionLine marked index option).toList[1]? =
      some (if marked then '>' else ' ') := by
    simp only [optionLine, String.toList_append]
    cases marked <;> rfl
  rw [Marked, second]
  cases marked <;> decide

/-- Each option has a line of its own, with its number, and the highlighted one is marked unless the
draft is being typed. -/
theorem optionLinesFrom_eq (composer : Composer) (start : Nat) (options : List String) :
    composer.optionLinesFrom start options = options.mapIdx fun index option =>
      optionLine (start + index == composer.highlighted && !composer.editing) (start + index)
        option := by
  induction options generalizing start with
  | nil => rfl
  | cons option rest inductionHypothesis =>
    rw [optionLinesFrom, inductionHypothesis, List.mapIdx_cons]
    simp only [Nat.add_zero, Nat.add_assoc, Nat.add_comm 1]

/-- While no draft is being typed, the highlighted option alone is marked. -/
theorem optionLinesFrom_of_resting (composer : Composer) (question : Question)
    (resting : composer.editing = false) :
    composer.optionLinesFrom 0 question.options = question.options.mapIdx fun index option =>
      optionLine (index == composer.highlighted) index option := by
  simp only [optionLinesFrom_eq, Nat.zero_add, resting, Bool.not_false, Bool.and_true]

theorem draftLines_of_editing (fits : composer.Fits question) (editing : composer.editing = true) :
    composer.draftLines question = [" > " ++ composer.draft ++ "_"] := by
  simp only [draftLines, fits.editing editing, editing, Bool.not_true, Bool.false_eq_true, if_false,
    if_true]

/-- The broadcast line says so exactly if the answer is to be broadcast. -/
theorem broadcastLines_eq_on_iff (fits : composer.Fits question) :
    composer.broadcastLines question = ["   broadcast: on"] ↔ composer.broadcast = true := by
  unfold broadcastLines
  cases marked : composer.broadcast with
  | true => rw [fits.broadcast marked]; exact iff_of_true rfl rfl
  | false => cases question.allowsBroadcast <;> decide

/-! ### What the next key hands over -/

/-- Where there are options, one of them is highlighted. -/
theorem Fits.exists_highlighted (fits : composer.Fits question) (some : question.options ≠ []) :
    ∃ option, question.options[composer.highlighted]? = .some option := by
  have inside : composer.highlighted < question.options.length := by
    rcases fits.highlighted with first | inside
    · rw [first]
      exact List.length_pos_of_ne_nil some
    · exact inside
  exact ⟨_, List.getElem?_eq_getElem inside⟩

theorem press_enter_of_resting (resting : composer.editing = false) {option : String}
    (highlighted : question.options[composer.highlighted]? = some option) :
    composer.press question .enter = composer.commit (.selected option) := by
  have inside : composer.highlighted ≤ question.options.length - 1 :=
    Nat.le_sub_one_of_lt (List.getElem?_eq_some_iff.mp highlighted).1
  have pressed : composer.press question .enter = composer.pressEnter question :=
    if_neg (Bool.eq_false_iff.mp resting)
  rw [pressed, pressEnter, Nat.min_eq_left inside, pick?, highlighted]
  rfl

theorem press_enter_of_editing (editing : composer.editing = true) :
    composer.press question .enter = composer.commit (.freeText (Text.trim composer.draft)) :=
  if_pos editing

/-- The number that a digit stands for. -/
theorem toString_digit {digit : Char} (first : '1' ≤ digit) (last : digit ≤ '9') :
    toString (digit.toNat - '1'.toNat + 1) = String.singleton digit := by
  have lower : 49 ≤ digit.toNat := first
  have upper : digit.toNat ≤ 57 := last
  obtain ⟨code, isCode⟩ : ∃ code, digit.toNat = code := ⟨_, rfl⟩
  have isDigit : digit = Char.ofNat code := by rw [← isCode, Char.ofNat_toNat]
  rw [isCode] at lower upper
  subst isDigit
  interval_cases code <;> rfl

theorem toString_injective {first second : Nat} (same : toString first = toString second) :
    first = second := by
  rw [Nat.toString_eq_ofList_toDigits, Nat.toString_eq_ofList_toDigits] at same
  calc first = Nat.ofDigitChars 10 (Nat.toDigits 10 first) 0 := Nat.ofDigitChars_ten_toDigits.symm
    _ = Nat.ofDigitChars 10 (Nat.toDigits 10 second) 0 := by rw [String.ofList_injective same]
    _ = second := Nat.ofDigitChars_ten_toDigits

theorem index_of_digit {digit : Char} (first : '1' ≤ digit) (last : digit ≤ '9') {index : Nat}
    (isNumber : toString (index + 1) = String.singleton digit) :
    digit.toNat - '1'.toNat = index :=
  Nat.add_right_cancel (toString_injective ((toString_digit first last).trans isNumber.symm))

theorem press_digit_of_resting (resting : composer.editing = false) {digit : Char}
    (first : '1' ≤ digit) (last : digit ≤ '9') :
    composer.press question (.char digit) = composer.pressDigit question digit := by
  have notK : digit ≠ 'k' := fun same => absurd (same ▸ last) (by decide)
  have notJ : digit ≠ 'j' := fun same => absurd (same ▸ last) (by decide)
  have pressed : composer.press question (.char digit) = composer.pressChar question digit :=
    if_neg (Bool.eq_false_iff.mp resting)
  rw [pressed, pressChar, if_neg notK, if_neg notJ, if_pos ⟨first, last⟩]

theorem press_digit_of_option (resting : composer.editing = false) {digit : Char}
    (first : '1' ≤ digit) (last : digit ≤ '9') {index : Nat} {option : String}
    (found : question.options[index]? = some option)
    (isNumber : toString (index + 1) = String.singleton digit) :
    composer.press question (.char digit) =
      { composer with highlighted := index }.commit (.selected option) := by
  rw [press_digit_of_resting resting first last]
  simp only [pressDigit, index_of_digit first last isNumber, pick?, found, Option.map_some]

/-- A digit that numbers no option changes nothing. -/
theorem press_digit_of_no_option (resting : composer.editing = false) {digit : Char}
    (first : '1' ≤ digit) (last : digit ≤ '9')
    (unnumbered : ∀ index < question.options.length,
      toString (index + 1) ≠ String.singleton digit) :
    composer.press question (.char digit) =
      (composer, .notice ("There is no option " ++ String.singleton digit)) := by
  have outside : question.options[digit.toNat - '1'.toNat]? = none :=
    List.getElem?_eq_none (Nat.not_lt.mp fun inside =>
      unnumbered _ inside (toString_digit first last))
  rw [press_digit_of_resting resting first last]
  simp only [pressDigit, pick?, outside, Option.map_none]

end Composer

/-! ### What the operator sees and does -/

namespace Shell

variable {Picture : Type} {shell : Shell Picture} {root : String}

theorem Coherent.queued?_of_mem (coherent : Coherent root shell) {question : Question}
    (waits : question ∈ shell.questions) : shell.queued? question.id = some question := by
  obtain ⟨found, isFound⟩ : ∃ found, shell.queued? question.id = some found :=
    Option.isSome_iff_exists.mp
      (List.find?_isSome.mpr ⟨question, waits, beq_self_eq_true question.id⟩)
  have sameId : found.id = question.id :=
    beq_iff_eq.mp (List.find?_some (p := fun other : Question => other.id == question.id) isFound)
  have same : found = question :=
    List.inj_on_of_nodup_map coherent.distinct (List.mem_of_find?_eq_some isFound) waits sameId
  rw [isFound, same]

theorem overlayBody_of_queued {overlay : Overlay} {question : Question}
    (isQuestion : overlay.kind = Overlay.questionKind)
    (shows : overlay.payload = some question.id)
    (isQueued : shell.queued? question.id = some question) :
    shell.overlayBody overlay = (shell.composerFor question.id).body question := by
  have notHelp : Overlay.questionKind ≠ Overlay.helpKind := by decide
  have notQuit : Overlay.questionKind ≠ Overlay.confirmQuitKind := by decide
  rw [overlayBody, isQuestion, if_neg notHelp, if_neg notQuit, if_pos rfl, shows]
  show shell.questionBody question.id = _
  rw [questionBody, isQueued]

/-- The composer is what the overlay on top shows, and what the next key acts on. -/
structure Seen (shell : Shell Picture) (top : Overlay) (question : Question)
    (composer : Composer) : Prop where
  own : composer.questionId = question.id
  shown : shell.overlayBody top = composer.body question
  acts : ∀ key, shell.update (.key key) = shell.follow key (composer.press question key)
  /-- The options, the draft and the broadcast mark have lines of their own in the body. -/
  lines : ∃ above below, shell.overlayBody top = "\n".intercalate
    (above ++ composer.optionLinesFrom 0 question.options ++ composer.draftLines question ++
      composer.broadcastLines question ++ below)
  /-- Each option has its line, one of them alone is marked, and Enter selects that one. -/
  marked : composer.editing = false → question.options ≠ [] →
    ∃ chosen option, question.options[chosen]? = some option ∧
      (composer.optionLinesFrom 0 question.options = question.options.mapIdx fun index other =>
        Composer.optionLine (index == chosen) index other) ∧
      (∀ index line, (composer.optionLinesFrom 0 question.options)[index]? = some line →
        (Composer.Marked line ↔ index = chosen)) ∧
      (shell.update (.key .enter)).2 = some (.submit (composer.answerWith (.selected option)))
  /-- A digit selects the option with this number. -/
  numbered : composer.editing = false → ∀ digit, '1' ≤ digit → digit ≤ '9' →
    ∀ index option, question.options[index]? = some option →
      toString (index + 1) = String.singleton digit →
        (shell.update (.key (.char digit))).2 =
          some (.submit (composer.answerWith (.selected option)))
  /-- A digit that numbers no option does nothing, but for a notice. -/
  unnumbered : composer.editing = false → ∀ digit, '1' ≤ digit → digit ≤ '9' →
    (∀ index < question.options.length, toString (index + 1) ≠ String.singleton digit) →
      shell.update (.key (.char digit)) =
        ({ shell with
            composer := some composer
            status := some ("There is no option " ++ String.singleton digit) }, none)
  /-- While the draft is being typed, it is shown, and Enter sends it trimmed. -/
  drafted : composer.editing = true →
    composer.draftLines question = [" > " ++ composer.draft ++ "_"] ∧
      (shell.update (.key .enter)).2 =
        some (.submit (composer.answerWith (.freeText (Text.trim composer.draft))))
  /-- An answer is broadcast exactly if the body says so. -/
  broadcast : ∀ key answer, (shell.update (.key key)).2 = some (.submit answer) →
    (answer.broadcast = true ↔ composer.broadcastLines question = ["   broadcast: on"])

/-- What fits the question, is shown and is acted on, is seen. -/
theorem seen_of_acts {top : Overlay} {question : Question} {composer : Composer}
    (own : composer.questionId = question.id) (fits : composer.Fits question)
    (shown : shell.overlayBody top = composer.body question)
    (acts : ∀ key, shell.update (.key key) = shell.follow key (composer.press question key)) :
    shell.Seen top question composer where
  own := own
  shown := shown
  acts := acts
  lines := by
    refine ⟨[Composer.originLine question, "", question.text, ""],
      composer.errorLines ++ ["", composer.hintLine question], ?_⟩
    rw [shown, Composer.body, Composer.bodyLines]
    simp only [List.append_assoc]
  marked := by
    intro resting some
    obtain ⟨option, highlighted⟩ := fits.exists_highlighted some
    have listed := composer.optionLinesFrom_of_resting question resting
    refine ⟨composer.highlighted, option, highlighted, listed, fun index line isLine => ?_, ?_⟩
    · rw [listed, List.getElem?_mapIdx] at isLine
      obtain ⟨other, -, rfl⟩ := Option.map_eq_some_iff.mp isLine
      rw [Composer.marked_optionLine, beq_iff_eq]
    · rw [acts, Composer.press_enter_of_resting resting highlighted]
      rfl
  numbered := by
    intro resting digit first last index option found isNumber
    rw [acts, Composer.press_digit_of_option resting first last found isNumber]
    rfl
  unnumbered := by
    intro resting digit first last unnumbered
    rw [acts, Composer.press_digit_of_no_option resting first last unnumbered]
    rfl
  drafted := by
    intro editing
    refine ⟨Composer.draftLines_of_editing fits editing, ?_⟩
    rw [acts, Composer.press_enter_of_editing editing]
    rfl
  broadcast := by
    intro key answer sends
    rw [acts] at sends
    obtain ⟨_, -, rfl⟩ :=
      Composer.handsOver_press composer question key answer (submit_of_follow sends)
    exact (Composer.broadcastLines_eq_on_iff fits).symm

/-- Whatever was done to a shell, the operator who looks at a waiting question sees the entries that
the next key acts on. -/
theorem seen_is_answered (root : String) (operations : List (Operation Picture))
    {shell : Shell Picture} (reached : (start root).run operations = shell)
    (going : shell.quitting = false) {top : Overlay} {below : List Overlay}
    (stack : shell.overlays = top :: below) (isQuestion : top.kind = Overlay.questionKind)
    {question : Question} (shows : top.payload = some question.id)
    (waits : question ∈ shell.questions) :
    shell.Seen top question (shell.composerFor question.id) := by
  have coherent : shell.Coherent root := reached ▸ coherent_run root operations
  have isQueued := coherent.queued?_of_mem waits
  have onTop : shell.topQuestion? = some question := by
    rw [topQuestion?, stack]
    simp only [isQuestion, shows, if_true, Option.bind_some, isQueued]
  exact seen_of_acts (questionId_composerFor shell question.id) (coherent.fits waits)
    (overlayBody_of_queued isQuestion shows isQueued)
    fun key => (update_key going key).trans (press_of_topQuestion? onTop key)

/-- A question with two options, whose answer can be broadcast. -/
def storeChoice : Question :=
  { Question.plain "Q-1" "Which store?" with options := ["mine", "ours"], allowsBroadcast := true }

/-- The operator moves to the second option and marks the answer for broadcast. -/
def choosing : List (Operation Unit) :=
  [.update (.asked storeChoice), .update (.key .down), .update (.key (.char 'b'))]

/-- The overlay says that the answer will be broadcast, and Enter sends the second option so. -/
theorem seen_is_answered_choosing :
    ((start "fleet").run choosing).Seen (.question "Q-1") storeChoice
        (((start "fleet").run choosing).composerFor "Q-1") ∧
      (((start "fleet").run choosing).composerFor "Q-1").broadcastLines storeChoice =
        ["   broadcast: on"] ∧
      (((start "fleet").run choosing).update (.key .enter)).2 = some (.submit
        { questionId := "Q-1", response := .selected "ours", broadcast := true }) := by
  have stack : ((start "fleet").run choosing).overlays = [.question "Q-1"] := by decide
  have waits : storeChoice ∈ ((start "fleet").run choosing).questions := by decide
  have seen := seen_is_answered "fleet" choosing rfl (by decide) stack rfl rfl waits
  have sends : (((start "fleet").run choosing).update (.key .enter)).2 = some (.submit
      { questionId := "Q-1", response := .selected "ours", broadcast := true }) := by decide
  exact ⟨seen, (seen.broadcast _ _ sends).mp rfl, sends⟩

end Shell

end OperatorDesk
