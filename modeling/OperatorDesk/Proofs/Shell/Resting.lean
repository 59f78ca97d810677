/-
This file follows what the operator has entered for a question over a stretch of notices in which
the question rests: it stays in the queue, and no key is for its composer. The entries are lost when
the composer is turned to another question, and only then.
-/

import OperatorDesk.Proofs.Shell.Entries

namespace OperatorDesk.Shell

variable {Picture : Type} {shell later : Shell Picture} {id : String} {notices more : List Notice}

/-! ### Sequences of notices -/

theorem hearAll_append (shell : Shell Picture) (notices more : List Notice) :
    shell.hearAll (notices ++ more) = (shell.hearAll notices).hearAll more :=
  List.foldl_append

section Throughout

variable {holds : Shell Picture → Notice → Prop}

theorem throughout_append : Throughout holds shell (notices ++ more) ↔
    Throughout holds shell notices ∧ Throughout holds (shell.hearAll notices) more := by
  induction notices generalizing shell with
  | nil => exact (and_iff_right trivial).symm
  | cons notice rest inductionHypothesis =>
    exact (and_congr_right fun _ => inductionHypothesis).trans and_assoc.symm

theorem Throughout.of_begins (throughout : Throughout holds shell notices)
    (begins : more <+: notices) : Throughout holds shell more := by
  obtain ⟨rest, rfl⟩ := begins
  exact (throughout_append.mp throughout).1

/-- What holds of every notice, whatever the shell, holds throughout. -/
theorem throughout_of_forall (each : ∀ shell, ∀ notice ∈ notices, holds shell notice) :
    Throughout holds shell notices := by
  induction notices generalizing shell with
  | nil => trivial
  | cons notice rest inductionHypothesis =>
    exact ⟨each shell notice List.mem_cons_self,
      inductionHypothesis fun shell other member =>
        each shell other (List.mem_cons_of_mem notice member)⟩

/-- What does not hold throughout fails at some notice. -/
theorem exists_of_not_throughout (fails : ¬Throughout holds shell notices) :
    ∃ passed notice, passed ++ [notice] <+: notices ∧ ¬holds (shell.hearAll passed) notice := by
  induction notices generalizing shell with
  | nil => exact absurd trivial fails
  | cons notice rest inductionHypothesis =>
    by_cases first : holds shell notice
    · obtain ⟨passed, last, begins, failing⟩ :=
        inductionHypothesis fun remains => fails ⟨first, remains⟩
      exact ⟨notice :: passed, last, List.cons_prefix_cons.mpr ⟨rfl, begins⟩, failing⟩
    · exact ⟨[], notice, List.prefix_append [notice] rest, first⟩

end Throughout

/-! ### Staying in the queue -/

theorem questions_edit (edit : Edit shell later) :
    later.questions = shell.questions ∨ ∃ id, later = shell.removeQuestion id := by
  cases edit with
  | shifts later shift => exact Or.inl (follows_shift shift).questions
  | composes question onTop key => exact Or.inl rfl
  | removes id => exact Or.inr ⟨id, rfl⟩

/-- No edit queues a question. -/
theorem mem_of_edit (edit : Edit shell later) {question : Question}
    (member : question ∈ later.questions) : question ∈ shell.questions := by
  rcases questions_edit edit with same | ⟨id, rfl⟩
  · exact same ▸ member
  · exact (List.mem_filter.mp member).1

theorem isQueued_of_edit (edit : Edit shell later) (isQueued : later.isQueued id = true) :
    shell.isQueued id = true := by
  obtain ⟨question, member, own⟩ := isQueued_iff.mp isQueued
  exact isQueued_iff.mpr ⟨question, mem_of_edit edit member, own⟩

theorem isQueued_of_edits (edits : Edits shell later) (isQueued : later.isQueued id = true) :
    shell.isQueued id = true := by
  induction edits with
  | refl => exact isQueued
  | tail _ edit inductionHypothesis => exact inductionHypothesis (isQueued_of_edit edit isQueued)

/-- What is queued after a notice was queued before, unless somebody asked. -/
theorem isQueued_of_hear {notice : Notice} (unasked : ∀ question, notice ≠ .event (.asked question))
    (isQueued : (shell.hear notice).isQueued id = true) : shell.isQueued id = true := by
  cases notice with
  | status text => exact isQueued
  | event event =>
    have heeds := heeds_update shell event
    change (shell.update event).1.isQueued id = true at isQueued
    generalize (shell.update event).1 = later at heeds isQueued
    cases heeds with
    | edits _ _ edits => exact isQueued_of_edits edits isQueued
    | asked question _ => exact absurd rfl (unasked question)
    | rejected other reason _ =>
      rwa [isQueued_congr
        (congrArg Prod.fst (queue_openQuestion (shell.blame other reason) other))] at isQueued

/-- What is queued remains so when somebody asks. -/
theorem isQueued_hear_asked (isQueued : shell.isQueued id = true) (question : Question) :
    (shell.hear (.event (.asked question))).isQueued id = true := by
  show (shell.update (.asked question)).1.isQueued id = true
  cases going : shell.quitting with
  | true =>
    rw [update_of_quitting going]
    exact isQueued
  | false =>
    have questions : (shell.hearAsked question).questions = entering shell.questions question :=
      congrArg Prod.fst (queue_hearAsked shell question)
    obtain ⟨other, member, own⟩ := isQueued_iff.mp isQueued
    rw [update_asked going]
    refine isQueued_iff.mpr ⟨other, ?_, own⟩
    rw [questions, entering]
    split
    · exact member
    · exact List.mem_append_left _ member

/-! ### Resting -/

/-- The question stays in the queue, and its composer has a use for none of the keys. -/
def Rests (id : String) (shell : Shell Picture) : List Notice → Prop
  | [] => shell.isQueued id = true
  | notice :: rest =>
    shell.isQueued id = true ∧ ¬shell.Uses id notice ∧ Rests id (shell.hear notice) rest

theorem Rests.isQueued (rests : shell.Rests id notices) : shell.isQueued id = true := by
  cases notices with
  | nil => exact rests
  | cons notice rest => exact rests.1

theorem Rests.append (rests : shell.Rests id notices)
    (goesOn : (shell.hearAll notices).Rests id more) : shell.Rests id (notices ++ more) := by
  induction notices generalizing shell with
  | nil => exact goesOn
  | cons notice rest inductionHypothesis =>
    exact ⟨rests.1, rests.2.1, inductionHypothesis rests.2.2 goesOn⟩

theorem rests_asked (isQueued : shell.isQueued id = true) (questions : List Question) :
    shell.Rests id (questions.map fun question => .event (.asked question)) := by
  induction questions generalizing shell with
  | nil => exact isQueued
  | cons question rest inductionHypothesis =>
    have unused : ¬shell.Uses id (.event (.asked question)) := by
      rintro ⟨-, key, isKey, -⟩
      cases isKey
    exact ⟨isQueued, unused, inductionHypothesis (isQueued_hear_asked isQueued question)⟩

/-- A question that is queued in the end was queued all the time, unless somebody asked. -/
theorem rests_of_unasked (unasked : ∀ question, .event (.asked question) ∉ notices)
    (unused : Throughout (fun shell notice => ¬shell.Uses id notice) shell notices)
    (stays : (shell.hearAll notices).isQueued id = true) : shell.Rests id notices := by
  induction notices generalizing shell with
  | nil => exact stays
  | cons notice rest inductionHypothesis =>
    have rests := inductionHypothesis
      (fun question member => unasked question (List.mem_cons_of_mem notice member)) unused.2 stays
    refine ⟨isQueued_of_hear ?_ rests.isQueued, unused.1, rests⟩
    rintro question rfl
    exact unasked question List.mem_cons_self

/-- While a question rests its entries are lost when its composer is turned to another question, and
only then. -/
theorem entriesFor_hearAll_iff (rests : shell.Rests id notices) :
    (shell.hearAll notices).entriesFor id = shell.entriesFor id ↔
      shell.entriesFor id = .blank ∨
        Throughout (fun shell notice => ¬shell.Displaces id notice) shell notices := by
  induction notices generalizing shell with
  | nil => exact iff_of_true rfl (Or.inr trivial)
  | cons notice rest inductionHypothesis =>
    obtain ⟨-, unused, rests⟩ := rests
    have remains := inductionHypothesis rests
    show ((shell.hear notice).hearAll rest).entriesFor id = shell.entriesFor id ↔ _
    by_cases displaces : shell.Displaces id notice
    · -- What is blank remains blank.
      have blank := blank_of_displaces displaces
      rw [remains.mpr (Or.inl blank), blank]
      exact ⟨fun same => Or.inl same.symm,
        fun kept => (kept.resolve_right fun never => never.1 displaces).symm⟩
    · rw [entriesFor_hear unused rests.isQueued displaces] at remains
      exact remains.trans (or_congr_right (and_iff_right displaces).symm)

end OperatorDesk.Shell
