/-
This file says when the operator's entries for a question survive while the question waits and the
keys go elsewhere. They do as long as only the question that has waited longest is ever shown, since
the shell has a single composer, which then has no reason to turn to another question. They can be
lost once a question is asked under the id of an earlier one whose overlay still lies on the stack:
this overlay shows the new question out of turn, and its composer takes the place of the other.
-/

import OperatorDesk.Proofs.Desk.Answering
import OperatorDesk.Proofs.Desk.Hearing
import OperatorDesk.Proofs.Shell.Fronting

namespace OperatorDesk.Desk

open Shell (Throughout Dormant RefusesFront AskedIn)

variable {Picture : Type}

section Invariants

variable {desk : Desk Picture} {id : String} {moves : List Move}

/-! ### Showing the first question only -/

theorem refusesFront_of_judges {shell : Shell Picture} {notice : Notice}
    (judges : Judges id notice) (front : shell.FrontIs id) : shell.RefusesFront notice := by
  rintro other reason rfl
  cases judges
  exact front

theorem refusesFront_event (shell : Shell Picture) {report : Terminal.Report} {event : Event}
    (heard : report.event? = some event) : shell.RefusesFront (.event event) := by
  rintro other reason same
  exact absurd (Notice.event.inj same) ((not_news_of_event? heard).2 other reason)

/-- Only the question on top can be answered, and it is the first. -/
theorem refusesFront_heard (frontOnly : desk.shell.FrontOnly) (move : Move) :
    Throughout RefusesFront desk.shell (desk.heard move) := by
  cases move with
  | outside _ _ => trivial
  | poll =>
    refine Shell.throughout_of_forall fun shell notice member other reason same => ?_
    subst same
    rcases List.mem_append.mp member with isAsked | isRetracted
    · obtain ⟨question, -, same⟩ := List.mem_map.mp isAsked
      cases same
    · obtain ⟨gone, -, same⟩ := List.mem_map.mp isRetracted
      cases same
  | report report =>
    have reported := reported_heard desk report
    generalize desk.heard (.report report) = notices at reported
    cases reported with
    | nothing => trivial
    | event event heard => exact ⟨refusesFront_event _ heard, trivial⟩
    | judged event heard question onTop same notice judges =>
      have front := (frontOnly.frontIs_of_topQuestion? onTop).congr (congrArg Prod.fst same)
      exact ⟨refusesFront_event _ heard, refusesFront_of_judges judges front, trivial⟩

/-- As long as no overlay comes back, only the first question is shown. -/
theorem frontOnly_story (frontOnly : desk.shell.FrontOnly) {passed : List Notice}
    (begins : passed <+: desk.story moves) (dormant : Throughout Dormant desk.shell passed) :
    (desk.shell.hearAll passed).FrontOnly := by
  induction moves generalizing desk passed with
  | nil =>
    rw [List.prefix_nil.mp begins]
    exact frontOnly
  | cons move rest inductionHypothesis =>
    have refusesFront := refusesFront_heard frontOnly move
    rcases List.prefix_or_prefix_of_prefix begins (List.prefix_append (desk.heard move) _) with
      within | beyond
    · exact frontOnly.hearAll dormant (refusesFront.of_begins within)
    · obtain ⟨more, rfl⟩ := beyond
      obtain ⟨first, second⟩ := Shell.throughout_append.mp dormant
      have remains := frontOnly.hearAll first refusesFront
      rw [Shell.hearAll_append]
      rw [← shell_step] at remains second ⊢
      exact inductionHypothesis remains ((List.prefix_append_right_inj _).mp begins) second

theorem frontOnly_new (embed : Dashboard → Picture) (gate : Gate) (compactBelow : Nat) :
    (Desk.new embed gate compactBelow).shell.FrontOnly := by
  refine ⟨fun id has _ => ?_, fun composer isComposer => ?_⟩
  · cases has
  · cases isComposer

/-! ### Resting -/

/-- The move is a key that the question's own composer has a use for. -/
def Uses (desk : Desk Picture) (id : String) : Move → Prop
  | .report report => ∃ event ∈ report.event?, desk.shell.Uses id (.event event)
  | _ => False

/-- The question stays in the queue, and its composer has a use for none of the keys. -/
def Rests (id : String) (desk : Desk Picture) : List Move → Prop
  | [] => desk.shell.isQueued id = true
  | move :: rest =>
    desk.shell.isQueued id = true ∧ ¬desk.Uses id move ∧ Rests id (desk.step move) rest

instance (desk : Desk Picture) (id : String) : (move : Move) → Decidable (desk.Uses id move)
  | .report report =>
    inferInstanceAs (Decidable (∃ event ∈ report.event?, desk.shell.Uses id (.event event)))
  | .outside _ _ => .isFalse not_false
  | .poll => .isFalse not_false

instance decidableRests (id : String) (desk : Desk Picture) :
    (moves : List Move) → Decidable (desk.Rests id moves)
  | [] => inferInstanceAs (Decidable (_ = true))
  | move :: rest =>
    have := decidableRests id (desk.step move) rest
    inferInstanceAs (Decidable (_ ∧ ¬desk.Uses id move ∧ (desk.step move).Rests id rest))

theorem Rests.isQueued (rests : desk.Rests id moves) : desk.shell.isQueued id = true := by
  cases moves with
  | nil => exact rests
  | cons move rest => exact rests.1

theorem unused_of_judges {shell : Shell Picture} {question : String} {notice : Notice}
    (judges : Judges question notice) : ¬shell.Uses id notice := by
  rintro ⟨-, key, isKey, -⟩
  cases judges <;> cases isKey

theorem rests_pollNotices (isQueued : desk.shell.isQueued id = true)
    (stays : (desk.shell.hearAll desk.pollNotices).isQueued id = true) :
    desk.shell.Rests id desk.pollNotices := by
  rw [pollNotices, Shell.hearAll_append] at stays
  refine (Shell.rests_asked isQueued _).append (Shell.rests_of_unasked ?_ ?_ stays)
  · intro question member
    obtain ⟨gone, -, same⟩ := List.mem_map.mp member
    cases same
  · refine Shell.throughout_of_forall fun shell notice member => ?_
    obtain ⟨gone, -, rfl⟩ := List.mem_map.mp member
    rintro ⟨-, key, isKey, -⟩
    cases isKey

theorem rests_reported {report : Terminal.Report} {notices : List Notice}
    (reported : Reported desk report notices) (unused : ¬desk.Uses id (.report report))
    (stays : (desk.shell.hearAll notices).isQueued id = true) : desk.shell.Rests id notices := by
  cases reported with
  | nothing => exact stays
  | event event heard =>
    have unusedEvent : ¬desk.shell.Uses id (.event event) := fun uses => unused ⟨event, heard, uses⟩
    refine Shell.rests_of_unasked (fun question member => ?_) ⟨unusedEvent, trivial⟩ stays
    cases List.mem_singleton.mp member
    exact (not_news_of_event? heard).1 question rfl
  | judged event heard _ _ _ notice judges =>
    have unusedEvent : ¬desk.shell.Uses id (.event event) := fun uses => unused ⟨event, heard, uses⟩
    refine Shell.rests_of_unasked (fun question member => ?_)
      ⟨unusedEvent, unused_of_judges judges, trivial⟩ stays
    rcases List.mem_cons.mp member with same | member
    · exact (not_news_of_event? heard).1 question (Notice.event.inj same).symm
    · cases List.mem_singleton.mp member
      cases judges

theorem rests_heard {move : Move} (isQueued : desk.shell.isQueued id = true)
    (unused : ¬desk.Uses id move) (stays : (desk.step move).shell.isQueued id = true) :
    desk.shell.Rests id (desk.heard move) := by
  rw [shell_step] at stays
  cases move with
  | outside _ _ => exact isQueued
  | poll => exact rests_pollNotices isQueued stays
  | report report => exact rests_reported (reported_heard desk report) unused stays

/-- What rests from move to move rests from notice to notice. -/
theorem Rests.story (rests : desk.Rests id moves) : desk.shell.Rests id (desk.story moves) := by
  induction moves generalizing desk with
  | nil => exact rests
  | cons move rest inductionHypothesis =>
    obtain ⟨isQueued, unused, rests⟩ := rests
    refine (rests_heard isQueued unused rests.isQueued).append ?_
    rw [← shell_step]
    exact inductionHypothesis rests

end Invariants

/-! ### Entries -/

/-- The entries for a question that rests are kept unless its composer is turned to another
question; and this happens only if, at some time in the run, a question was asked under the id of an
earlier one whose overlay was still on the stack, while other questions were waiting. -/
theorem entries_kept_or_revived (embed : Dashboard → Picture) (gate : Gate) (compactBelow : Nat)
    (moves stretch : List Move) {desk : Desk Picture}
    (reached : (Desk.new embed gate compactBelow).run moves = desk) {id : String}
    (rests : desk.Rests id stretch) :
    ((desk.run stretch).shell.entriesFor id = desk.shell.entriesFor id ↔
      desk.shell.entriesFor id = .blank ∨
        Throughout (fun shell notice => ¬shell.Displaces id notice) desk.shell
          (desk.story stretch)) ∧
    ((desk.run stretch).shell.entriesFor id = desk.shell.entriesFor id ∨
      ∃ passed question, passed ++ [.event (.asked question)] <+:
          (Desk.new embed gate compactBelow).story (moves ++ stretch) ∧
        ((Desk.new embed gate compactBelow).shell.hearAll passed).Revives question ∧
        AskedIn passed question.id) := by
  have rests := rests.story
  have kept := Shell.entriesFor_hearAll_iff rests
  rw [← shell_run] at kept
  refine ⟨kept, ?_⟩
  by_cases dormant : Throughout Dormant (Desk.new embed gate compactBelow).shell
      ((Desk.new embed gate compactBelow).story (moves ++ stretch))
  · refine Or.inl (kept.mpr (Or.inr (Shell.throughout_not_displaces (fun passed begins => ?_) rests)))
    rw [← reached, shell_run, ← Shell.hearAll_append]
    have within : (Desk.new embed gate compactBelow).story moves ++ passed <+:
        (Desk.new embed gate compactBelow).story (moves ++ stretch) := by
      rw [story_append, reached]
      exact (List.prefix_append_right_inj _).mpr begins
    exact frontOnly_story (frontOnly_new embed gate compactBelow) within (dormant.of_begins within)
  · obtain ⟨passed, question, begins, revives⟩ := Shell.exists_revives dormant
    exact Or.inr ⟨passed, question, begins, revives, Shell.askedIn_of_revives rfl rfl revives⟩

/-! ### Putting questions off -/

/-- A new gate with two slots. -/
def twoSlots : Gate :=
  Gate.new { capacity := 2, defaultTimeout := none }

/-- The operator presses a key. -/
def pressing (code : Terminal.KeyCode) : Move :=
  .report (.key { code, modifiers := [], motion := .press })

/-- The operator starts a draft, and stops typing. -/
def drafting : List Move :=
  [pressing (.char 'i'), pressing (.char 'a'), pressing (.char 'n'), pressing (.char 'n'),
    pressing .esc]

/-- A question that takes free text. -/
def nameQuestion : Question :=
  { Question.plain "Q-2" "Which name?" with allowsFreeText := true }

/-- The question is shown, and the operator drafts an answer. -/
def showing : List Move :=
  asking 0 .background nameQuestion ++ [.poll] ++ drafting

/-- The operator puts off the question, looks at the key reference, and opens the question again. -/
def reopening : List Move :=
  [pressing .esc, pressing (.char '?'), pressing .esc, pressing (.char 'a')]

/-- The draft is kept, so its composer was never turned away. -/
theorem entries_kept_or_revived_reopening :
    ((Desk.new id twoSlots 120).run showing).Rests "Q-2" reopening ∧
      Throughout (fun shell notice => ¬shell.Displaces "Q-2" notice)
        ((Desk.new id twoSlots 120).run showing).shell
        (((Desk.new id twoSlots 120).run showing).story reopening) := by
  have rests : ((Desk.new id twoSlots 120).run showing).Rests "Q-2" reopening := by
    decide +kernel
  have exactly := (entries_kept_or_revived id twoSlots 120 showing reopening rfl rests).1
  exact ⟨rests, (exactly.mp (by decide +kernel)).resolve_left (by decide +kernel)⟩

/-- A question is cancelled under the key reference; another is asked, and then the first again. The
operator drafts an answer to the other, and puts it off. -/
def burying : List Move :=
  asking 0 (.cancellable 0) (.plain "Q-1" "Which store?") ++ [.poll, pressing (.char '?')] ++
    givingUp 0 0 ++ asking 1 .background nameQuestion ++ [.poll] ++
      asking 2 .background (.plain "Q-1" "Which store?") ++ [.poll] ++ drafting ++ [pressing .esc]

/-- The operator closes the key reference, puts off what lies under it, and opens the question that
has waited longest. -/
def uncovering : List Move :=
  [pressing .esc, pressing .esc, pressing (.char 'a')]

/-- The draft for the question that has waited longest is lost, though the question is queued all
the time and none of the keys is for its composer. -/
theorem entries_lost_uncovering :
    ((Desk.new id twoSlots 120).run burying).Rests "Q-2" uncovering ∧
      ((Desk.new id twoSlots 120).run burying).shell.entriesFor "Q-2" =
        { highlighted := 0, broadcast := false, editing := false, draft := "ann" } ∧
      (((Desk.new id twoSlots 120).run burying).run uncovering).shell.entriesFor "Q-2" =
        .blank := by
  refine ⟨by decide +kernel, by decide +kernel, by decide +kernel⟩

end OperatorDesk.Desk
