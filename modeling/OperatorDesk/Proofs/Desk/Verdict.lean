/-
This file says how the dispatch of an answer ends. The shell closes the overlay of the question
before the gate judges the answer, and the gate's verdict then puts everything in order: an accepted
answer is recorded, and its question is gone; a refused one leaves the question where it was, with
its overlay on top again and the reason shown; and if nothing was waiting for it, the question goes
as well. Since the overlay of a question lies on the stack once, closing it leaves at most the one
that settling opens again, which then is on top.
-/

import OperatorDesk.Proofs.Desk.Using
import OperatorDesk.Proofs.Shell.Entries
import OperatorDesk.Proofs.Shell.Fronting
import OperatorDesk.Proofs.Shell.Submitting

namespace OperatorDesk

/-! ### Closing a question and putting it again -/

namespace Shell

variable {Picture : Type} {shell : Shell Picture} {id : String}

/-- The overlay of the question lies on top, if it is on the stack. -/
def OnTopIfAny (id : String) (shell : Shell Picture) : Prop :=
  shell.hasOverlayFor id = true → ∃ below, shell.overlays = .question id :: below

theorem onTopIfAny_of_absent (absent : shell.hasOverlayFor id = false) : shell.OnTopIfAny id :=
  fun has => absurd (absent.symm.trans has) Bool.false_ne_true

theorem onTopIfAny_openQuestion (absent : shell.hasOverlayFor id = false) (other : String) :
    (shell.openQuestion other).OnTopIfAny id := by
  intro has
  rcases hasOverlayFor_openQuestion has with rfl | was
  · rw [openQuestion_eq, absent]
    exact ⟨shell.overlays, rfl⟩
  · exact absurd (absent.symm.trans was) Bool.false_ne_true

theorem onTopIfAny_surface (absent : shell.hasOverlayFor id = false) :
    shell.surface.OnTopIfAny id := by
  unfold surface openFront
  split
  · exact onTopIfAny_of_absent absent
  · split
    · exact onTopIfAny_of_absent absent
    · exact onTopIfAny_openQuestion absent _

/-- Settling opens the question on top, if at all. -/
theorem onTopIfAny_settle (absent : shell.hasOverlayFor id = false) :
    shell.settle.OnTopIfAny id := by
  unfold settle
  simp only
  split
  · exact onTopIfAny_of_absent absent
  · refine onTopIfAny_surface (Bool.eq_false_iff.mpr fun has => ?_)
    obtain ⟨overlay, member, shows⟩ := hasOverlayFor_iff.mp has
    exact Bool.false_ne_true (absent.symm.trans
      (hasOverlayFor_iff.mpr ⟨overlay, (List.dropWhile_suffix _).subset member, shows⟩))

/-- A question that lies on the stack once is not on it when its overlay is closed. -/
theorem hasOverlayFor_popOverlay {top : Overlay} {below : List Overlay}
    (unrepeated : Unrepeated shell.overlays) (stack : shell.overlays = top :: below)
    (isQuestion : top.kind = Overlay.questionKind) (shows : top.payload = some id) :
    shell.popOverlay.1.hasOverlayFor id = false := by
  refine Bool.eq_false_iff.mpr fun has => ?_
  obtain ⟨overlay, member, alsoQuestion, alsoShows⟩ := hasOverlayFor_iff.mp has
  have distinct := unrepeated.distinct
  rw [stack] at distinct
  have isBelow : overlay ∈ below := by
    change overlay ∈ shell.overlays.tail at member
    rwa [stack] at member
  exact List.rel_of_pairwise_cons distinct isBelow isQuestion alsoQuestion
    (shows.trans alsoShows.symm)

theorem onTopIfAny_of_submits {event : Event} {answer : Answer}
    (unrepeated : Unrepeated shell.overlays)
    (sends : (shell.update event).2 = some (.submit answer)) :
    (shell.update event).1.OnTopIfAny answer.questionId := by
  obtain ⟨_, question, composer, -, -, onTop, addressed, -, updated⟩ := exists_of_submits sends
  obtain ⟨top, below, stack, isQuestion, shows⟩ := overlays_of_topQuestion? onTop
  rw [updated, addressed]
  have absent : ({ shell with composer := some composer } : Shell Picture).popOverlay.1.hasOverlayFor
      question.id = false := hasOverlayFor_popOverlay unrepeated stack isQuestion shows
  exact onTopIfAny_settle absent

/-- A refused answer puts its question on top again, and the question's composer tells why. -/
theorem hearRejected_puts (isQueued : shell.isQueued id = true) (onTop : shell.OnTopIfAny id)
    (reason : String) :
    (∃ below, (shell.hearRejected id reason).overlays = .question id :: below) ∧
      ∃ composer, (shell.hearRejected id reason).composer = some composer ∧
        composer.questionId = id ∧ composer.error = some reason := by
  have own : ({ shell.composerFor id with error := some reason } : Composer).questionId = id :=
    questionId_composerFor shell id
  have rejected : shell.hearRejected id reason = (shell.blame id reason).openQuestion id :=
    if_pos isQueued
  rw [rejected]
  refine ⟨?_, _, composer_openQuestion rfl own, own, rfl⟩
  rw [openQuestion_eq]
  split
  · next has => exact onTop has
  · exact ⟨_, rfl⟩

theorem isQueued_eq_false_of_filter {later : Shell Picture}
    (questions : later.questions = shell.questions.filter (·.id != id)) :
    later.isQueued id = false := by
  refine Bool.eq_false_iff.mpr fun isQueued => ?_
  obtain ⟨question, member, same⟩ := isQueued_iff.mp isQueued
  rw [questions, List.mem_filter] at member
  exact bne_iff_ne.mp member.2 same

end Shell

/-! ### The three ends of an answer -/

namespace Desk

variable {Picture : Type} {desk : Desk Picture}

/-- What has become of an answer when its dispatch is over. The gate's verdict tells which of the
three it is, and there is no other verdict. -/
inductive Settles (desk later : Desk Picture) (answer : Answer) :
    Except AskFailure Unit → Prop where
  /-- It is in the history, and its question is gone. -/
  | accepted (record : Record) (isAnswer : record.answer = answer)
    (history : later.gate.history = desk.gate.history ++ [record])
    (resolved : later.gate.isPending answer.questionId = false)
    (leaves : later.shell.isQueued answer.questionId = false) :
    Settles desk later answer (.ok ())
  /-- Its question is where it was, shown on top, and the reason is told. -/
  | rejected (refusal : Refusal) (below : List Overlay) (composer : Composer)
    (gate : later.gate = desk.gate) (questions : later.shell.questions = desk.shell.questions)
    (isQueued : later.shell.isQueued answer.questionId = true)
    (onTop : later.shell.overlays = .question answer.questionId :: below)
    (composes : later.shell.composer = some composer)
    (own : composer.questionId = answer.questionId)
    (told : composer.error = some refusal.message) :
    Settles desk later answer (.error (.refused refusal))
  /-- Nothing was waiting for it, and now nothing is shown as waiting either. -/
  | gone (absent : desk.gate.isPending answer.questionId = false)
    (gate : later.gate = desk.gate)
    (leaves : later.shell.isQueued answer.questionId = false) :
    Settles desk later answer (.error (.notFound answer.questionId))

theorem dispatch_of_submits {event : Event} {answer : Answer}
    (sends : (desk.shell.update event).2 = some (.submit answer)) :
    desk.dispatch event =
      { desk with shell := (desk.shell.update event).1 }.perform (.submit answer) := by
  obtain ⟨shell, action, updated⟩ : ∃ shell action,
      desk.shell.update event = (shell, action) := ⟨_, _, rfl⟩
  rw [updated] at sends
  obtain rfl : action = some (.submit answer) := sends
  rw [dispatch, updated]

/-- The shell has handed the answer over and has not heard the verdict yet. -/
structure Sent (desk : Desk Picture) (answer : Answer) (sent : Shell Picture) : Prop where
  going : sent.quitting = false
  questions : sent.questions = desk.shell.questions
  isQueued : sent.isQueued answer.questionId = true
  onTop : sent.OnTopIfAny answer.questionId

theorem Sound.sent (sound : desk.Sound) {event : Event} {answer : Answer}
    (sends : (desk.shell.update event).2 = some (.submit answer)) :
    desk.Sent answer (desk.shell.update event).1 := by
  obtain ⟨_, question, _, -, going, onTop, addressed, -, -⟩ := Shell.exists_of_submits sends
  have queue := Shell.queue_of_submits sends
  have questions := congrArg Prod.fst queue
  refine ⟨(congrArg Prod.snd queue).trans going, questions, ?_,
    Shell.onTopIfAny_of_submits sound.overlays sends⟩
  rw [Shell.isQueued_congr questions, addressed]
  exact Shell.isQueued_of_mem (Shell.mem_of_topQuestion? onTop)

namespace Sent

variable {answer : Answer} {sent : Shell Picture}

theorem settles_gone (handed : desk.Sent answer sent)
    (absent : desk.gate.find? answer.questionId = none)
    (judged : desk.gate.submit answer = (desk.gate, .error (.notFound answer.questionId))) :
    Settles desk ({ desk with shell := sent }.perform (.submit answer)) answer
      (.error (.notFound answer.questionId)) := by
  have heard : hearVerdict sent answer.questionId (.error (.notFound answer.questionId)) =
      sent.hearRetracted answer.questionId :=
    congrArg Prod.fst (Shell.update_retracted handed.going answer.questionId)
  have queue := sent.queue_hearRetracted answer.questionId
  simp only [perform, judged, heard]
  exact .gone (Gate.isPending_eq_false_iff.mpr (Gate.find?_eq_none_iff.mp absent)) rfl
    (Shell.isQueued_eq_false_of_filter (congrArg Prod.fst queue))

theorem settles_rejected (handed : desk.Sent answer sent) {refusal : Refusal}
    (judged : desk.gate.submit answer = (desk.gate, .error (.refused refusal))) :
    Settles desk ({ desk with shell := sent }.perform (.submit answer)) answer
      (.error (.refused refusal)) := by
  have heard : hearVerdict sent answer.questionId (.error (.refused refusal)) =
      sent.hearRejected answer.questionId refusal.message :=
    congrArg Prod.fst (Shell.update_rejected handed.going answer.questionId refusal.message)
  have queue := sent.queue_hearRejected answer.questionId refusal.message
  have questions := congrArg Prod.fst queue
  obtain ⟨⟨below, onTop⟩, composer, composes, own, told⟩ :=
    Shell.hearRejected_puts handed.isQueued handed.onTop refusal.message
  have isQueued : (sent.hearRejected answer.questionId refusal.message).isQueued
      answer.questionId = true := by
    rw [Shell.isQueued_congr questions]
    exact handed.isQueued
  simp only [perform, judged, heard]
  exact .rejected refusal below composer rfl (questions.trans handed.questions) isQueued onTop
    composes own told

theorem settles_accepted (handed : desk.Sent answer sent) {exchange : Exchange}
    (found : desk.gate.find? answer.questionId = some exchange)
    (judged : desk.gate.submit answer = (desk.gate.answered exchange answer, .ok ())) :
    Settles desk ({ desk with shell := sent }.perform (.submit answer)) answer (.ok ()) := by
  have heard : hearVerdict sent answer.questionId (.ok ()) =
      sent.hearAccepted answer.questionId :=
    congrArg Prod.fst (Shell.update_accepted handed.going answer.questionId)
  have queue := sent.queue_hearAccepted answer.questionId
  obtain ⟨_, _, _, _, frame⟩ := Gate.answered_frame desk.gate exchange answer
  have resolved : (desk.gate.answered exchange answer).isPending answer.questionId = false := by
    refine Gate.isPending_eq_false_iff.mpr fun other member => ?_
    rw [frame] at member
    rw [← Gate.id_of_find? found]
    exact (Gate.mem_removePending.mp member).2
  simp only [perform, judged, heard]
  exact .accepted _ rfl (by rw [frame]) resolved
    (Shell.isQueued_eq_false_of_filter (congrArg Prod.fst queue))

end Sent

/-- The gate judges an answer in one of the three ways, and the desk settles accordingly. -/
theorem Sound.settles (sound : desk.Sound) {event : Event} {answer : Answer}
    (sends : (desk.shell.update event).2 = some (.submit answer)) :
    Settles desk (desk.dispatch event) answer (desk.gate.submit answer).2 := by
  have handed := sound.sent sends
  rw [dispatch_of_submits sends]
  rcases sound.gate.submit_cases answer with ⟨absent, judged⟩ | ⟨_, refusal, -, -, judged⟩ |
    ⟨exchange, found, -, judged⟩
  · rw [congrArg Prod.snd judged]
    exact handed.settles_gone absent judged
  · rw [congrArg Prod.snd judged]
    exact handed.settles_rejected judged
  · rw [congrArg Prod.snd judged]
    exact handed.settles_accepted found judged

theorem Settles.exists_told {later : Desk Picture} {answer : Answer}
    {verdict : Except AskFailure Unit} (settles : Settles desk later answer verdict) :
    ∃ told, verdictEvent? answer.questionId verdict = some told ∧ ∀ key, told ≠ .key key := by
  cases settles with
  | accepted => exact ⟨_, rfl, nofun⟩
  | rejected => exact ⟨_, rfl, nofun⟩
  | gone => exact ⟨_, rfl, nofun⟩

/-- However a desk was used that began without overlays, each answer that its shell hands over ends
in one of the three ways. The shell is told the verdict, and asks for nothing more. -/
theorem answer_settles (settings : GateSettings) (before : List Gate.Move)
    {shell : Shell Picture} (empty : shell.overlays = []) (uses : List Use) {desk : Desk Picture}
    (reached : (withShell shell ((Gate.new settings).run before)).useAll uses = desk)
    {event : Event} {answer : Answer}
    (sends : (desk.shell.update event).2 = some (.submit answer)) :
    Settles desk (desk.dispatch event) answer (desk.gate.submit answer).2 ∧
      ∃ told, verdictEvent? answer.questionId (desk.gate.submit answer).2 = some told ∧
        ((desk.shell.update event).1.update told).2 = none := by
  have sound : desk.Sound :=
    reached ▸ keep_useAll Sound Sound.use (sound_withShell empty settings before) uses
  have settles := sound.settles sends
  obtain ⟨told, isTold, noKey⟩ := settles.exists_told
  exact ⟨settles, told, isTold, Shell.asks_nothing noKey⟩

/-- An agent asks a question with a blank option, and the desk shows it. -/
def blankAsked : Desk Unit :=
  (withShell (Shell.start "fleet")
      ((Gate.new { capacity := 1, defaultTimeout := none }).run [])).useAll
    [.outside (.ask .background { Question.plain "Q-1" "Which store?" with options := [" "] }),
      .outside (.poll 0), .poll]

/-- The blank option is refused: the question is on top again and tells why. -/
theorem answer_settles_blank :
    Settles blankAsked (blankAsked.dispatch (.key .enter))
        { questionId := "Q-1", response := .selected " ", broadcast := false }
        (.error (.refused (.emptySelection "Q-1"))) ∧
      (blankAsked.dispatch (.key .enter)).shell.overlays = [.question "Q-1"] := by
  let blank : Answer := { questionId := "Q-1", response := .selected " ", broadcast := false }
  have sends : (blankAsked.shell.update (.key .enter)).2 = some (.submit blank) := by decide
  have empty : (Shell.start "fleet" : Shell Unit).overlays = [] := rfl
  have settles : Settles blankAsked (blankAsked.dispatch (.key .enter)) blank
      (blankAsked.gate.submit blank).2 :=
    (answer_settles { capacity := 1, defaultTimeout := none } [] empty _ rfl sends).1
  have judged : (blankAsked.gate.submit blank).2 =
      .error (.refused (.emptySelection "Q-1")) := by rfl
  rw [judged] at settles
  exact ⟨settles, by decide⟩

end Desk

end OperatorDesk
