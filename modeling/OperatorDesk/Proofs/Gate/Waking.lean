/-
This file shows that the gate does not look at its own wakes. Whom it has woken is told to those who
give turns, and no move depends on it. A move that does nothing but wake askers, as the dropping of
a handle does, can therefore be left out of a run, and everything else comes out as before.
-/

import OperatorDesk.Proofs.Gate.Moves

namespace OperatorDesk.Gate

/-- What is done to the gate, and what is reported of it, does not depend on who was woken before,
who is only noted once more. -/
def Unheeding {Report : Type} (act : Gate → Gate × Report) : Prop :=
  ∀ gate woken, ∃ later,
    act { gate with woken } = ({ (act gate).1 with woken := later }, (act gate).2)

/-- The same for what reports nothing. -/
def Heedless (change : Gate → Gate) : Prop :=
  ∀ gate woken, ∃ later, change { gate with woken } = { change gate with woken := later }

theorem Heedless.comp {first second : Gate → Gate} (left : Heedless first)
    (right : Heedless second) : Heedless fun gate => second (first gate) := by
  intro gate woken
  obtain ⟨later, same⟩ := left gate woken
  simp only [same]
  exact right (first gate) later

theorem Unheeding.fst {Report : Type} {act : Gate → Gate × Report} (unheeding : Unheeding act) :
    Heedless fun gate => (act gate).1 := by
  intro gate woken
  obtain ⟨later, same⟩ := unheeding gate woken
  exact ⟨later, congrArg Prod.fst same⟩

variable (id : AskerId) (asker : Asker) (number : Nat)

/-! ### Slots and exchanges -/

theorem heedless_releaseSlot : Heedless releaseSlot := by
  intro gate woken
  simp only [releaseSlot]
  split
  · exact ⟨woken, rfl⟩
  · exact ⟨woken ++ [.asker _], rfl⟩

theorem heedless_releaseOf (exchange : Exchange) : Heedless (releaseOf · exchange) := by
  intro gate woken
  unfold releaseOf
  split
  · exact heedless_releaseSlot gate woken
  · exact ⟨woken, rfl⟩

theorem heedless_setStage (stage : Stage) : Heedless (setStage · id stage) :=
  fun _ woken => ⟨woken, rfl⟩

theorem heedless_retract (questionId : String) :
    Heedless fun gate => (gate.retract questionId number).1 := by
  intro gate woken
  have same : { gate with woken }.find? questionId = gate.find? questionId := rfl
  simp only [retract, same]
  cases gate.find? questionId with
  | none => exact ⟨woken, rfl⟩
  | some exchange =>
    simp only
    split
    · exact heedless_releaseOf exchange (gate.removePending questionId) woken
    · exact ⟨woken, rfl⟩

theorem heedless_post (question : Question) : Heedless (post · number question) := by
  intro gate woken
  obtain ⟨later, same⟩ := post_frame { gate with woken } number question
  obtain ⟨before, posted⟩ := post_frame gate number question
  exact ⟨later, by simp only [same, posted]⟩

/-! ### Turns -/

theorem heedless_leave (outcome : Outcome) : Heedless (leave · id asker number outcome) :=
  (heedless_retract number asker.question.id).comp (heedless_setStage id (.ended outcome))

theorem heedless_finishEarly (ending : Ending) :
    Heedless (finishEarly · id asker number ending) := by
  intro gate woken
  have same : { gate with woken }.earlyOutcome asker number ending =
      gate.earlyOutcome asker number ending := rfl
  simp only [finishEarly_eq_leave, same]
  exact heedless_leave id asker number _ gate woken

theorem heedless_listen : Heedless (listen · id asker number) := by
  intro gate woken
  have same : { gate with woken }.isCurrent asker.question.id number =
      gate.isCurrent asker.question.id number := rfl
  simp only [listen, same]
  cases asker.reply with
  | some answer => exact ⟨woken, rfl⟩
  | none =>
    simp only
    split
    · cases asker.context.signal gate.used gate.served with
      | some ending => exact heedless_finishEarly id asker number ending gate woken
      | none => exact ⟨woken, rfl⟩
    · exact ⟨woken, rfl⟩

theorem heedless_useSlot : Heedless (useSlot · id asker number) := by
  intro gate woken
  have same : { gate with woken }.isCurrent asker.question.id number =
      gate.isCurrent asker.question.id number := rfl
  have listens := heedless_listen id asker number
  simp only [useSlot, same]
  split
  · by_cases deserted : gate.seat = .gone
    · have isGone : ({ gate with woken }.markSlot asker.question.id true).seat = .gone := deserted
      have wasGone : (gate.markSlot asker.question.id true).seat = .gone := deserted
      rw [if_pos isGone, if_pos wasGone]
      exact heedless_leave id asker number _ (gate.markSlot asker.question.id true) woken
    · have isThere : ({ gate with woken }.markSlot asker.question.id true).seat ≠ .gone := deserted
      have wasThere : (gate.markSlot asker.question.id true).seat ≠ .gone := deserted
      rw [if_neg isThere, if_neg wasThere]
      exact (heedless_post number asker.question).comp listens
        (gate.markSlot asker.question.id true) woken
  · exact heedless_releaseSlot.comp listens gate woken

theorem heedless_seekSlot : Heedless (seekSlot · id asker number) := by
  intro gate woken
  simp only [seekSlot]
  split
  · exact heedless_useSlot id asker number { gate with free := gate.free - 1 } woken
  · exact ⟨woken, rfl⟩

theorem heedless_begin : Heedless (begin · id asker) := by
  intro gate woken
  have bounded : { gate with woken }.bounded asker = gate.bounded asker := rfl
  have enrolled : { gate with woken }.enroll id asker = { gate.enroll id asker with woken } := rfl
  have absent : { gate with woken }.isPending asker.question.id =
    gate.isPending asker.question.id := rfl
  simp only [begin_eq, bounded, enrolled, absent]
  split
  · exact ⟨woken, rfl⟩
  split
  · exact ⟨woken, rfl⟩
  cases (gate.bounded asker).context.check gate.used gate.now with
  | some ending => exact heedless_finishEarly id _ _ ending (gate.enroll id asker) woken
  | none => exact heedless_seekSlot id _ _ (gate.enroll id asker) woken

theorem heedless_poll : Heedless (poll · id) := by
  intro gate woken
  have left : Heedless (leaveLine · id) := fun _ woken => ⟨woken, rfl⟩
  simp only [poll]
  cases gate.askers[id]? with
  | none => exact ⟨woken, rfl⟩
  | some asker =>
    simp only
    cases asker.stage with
    | unheard => exact heedless_begin id asker gate woken
    | inLine number =>
      simp only
      cases asker.context.signal gate.used gate.served with
      | some ending =>
        exact left.comp (heedless_finishEarly id asker number ending) gate woken
      | none =>
        simp only
        split
        · exact left.comp (heedless_leave id asker number _) gate woken
        · exact ⟨woken, rfl⟩
    | granted number =>
      simp only
      cases asker.context.signal gate.used gate.served with
      | some ending =>
        exact heedless_releaseSlot.comp (heedless_finishEarly id asker number ending) gate woken
      | none =>
        simp only
        split
        · exact heedless_releaseSlot.comp (heedless_leave id asker number _) gate woken
        · exact heedless_useSlot id asker number gate woken
    | listening number => exact heedless_listen id asker number gate woken
    | ended outcome => exact ⟨woken, rfl⟩

theorem heedless_drop : Heedless (drop · id) := by
  intro gate woken
  have left : Heedless (leaveLine · id) := fun _ woken => ⟨woken, rfl⟩
  simp only [drop]
  cases gate.askers[id]? with
  | none => exact ⟨woken, rfl⟩
  | some asker =>
    simp only
    cases asker.stage with
    | inLine number => exact left.comp (heedless_leave id asker number _) gate woken
    | granted number =>
      exact heedless_releaseSlot.comp (heedless_leave id asker number _) gate woken
    | listening number => exact heedless_leave id asker number _ gate woken
    | _ => exact ⟨woken, rfl⟩

/-! ### Answers -/

theorem heedless_deliver (answer : Answer) : Heedless (deliver · id answer) := by
  intro gate woken
  obtain ⟨later, same⟩ := deliver_frame { gate with woken } id answer
  obtain ⟨before, delivered⟩ := deliver_frame gate id answer
  exact ⟨later, by simp only [same, delivered, updateAsker]⟩

theorem heedless_submit (answer : Answer) : Heedless fun gate => (gate.submit answer).1 := by
  intro gate woken
  have same : { gate with woken }.find? answer.questionId = gate.find? answer.questionId := rfl
  simp only [submit, same]
  cases gate.find? answer.questionId with
  | none => exact ⟨woken, rfl⟩
  | some exchange =>
    have recorded : Heedless (record · exchange answer) := fun _ woken => ⟨woken, rfl⟩
    have hears : { gate with woken }.canHear exchange.asker = gate.canHear exchange.asker := rfl
    simp only [hears]
    cases exchange.question.refusal? answer with
    | some refusal => exact ⟨woken, rfl⟩
    | none =>
      simp only
      split
      · exact ((heedless_deliver exchange.asker answer).comp
          (heedless_releaseOf exchange)).comp recorded (gate.removePending _) woken
      · exact heedless_releaseOf exchange (gate.removePending _) woken

/-! ### Readers -/

theorem unheeding_accept (letter : Letter) : Unheeding (accept · letter) := by
  intro gate woken
  have same : { gate with woken }.find? letter.question.id = gate.find? letter.question.id := rfl
  simp only [accept, same]
  cases gate.find? letter.question.id with
  | none => exact ⟨woken, rfl⟩
  | some exchange =>
    simp only
    split
    · obtain ⟨later, released⟩ :=
        heedless_releaseOf exchange (gate.markSlot letter.question.id false) woken
      exact ⟨later, congrArg (·, some letter.question) released⟩
    · exact ⟨woken, rfl⟩

theorem unheeding_firstOf (letters : List Letter) : Unheeding (firstOf · letters) := by
  induction letters with
  | nil => exact fun _ woken => ⟨woken, rfl⟩
  | cons letter rest inductionHypothesis =>
    intro gate woken
    obtain ⟨later, same⟩ := unheeding_accept letter { gate with mailbox := rest } woken
    simp only [firstOf, same]
    obtain ⟨taken, question?, accepted⟩ : ∃ taken question?,
      { gate with mailbox := rest }.accept letter = (taken, question?) := ⟨_, _, rfl⟩
    simp only [accepted]
    cases question? with
    | some question => exact ⟨later, rfl⟩
    | none => exact inductionHypothesis taken later

theorem ReadsUntil.unheeding {isOver : Gate → Bool}
    {reader : Gate → List Letter → Gate × Reading} (reads : ReadsUntil isOver reader)
    (blind : ∀ gate woken, isOver { gate with woken } = isOver gate) (letters : List Letter) :
    Unheeding (reader · letters) := by
  induction letters with
  | nil =>
    intro gate woken
    simp only [reads.nil, blind]
    split <;> exact ⟨woken, rfl⟩
  | cons letter rest inductionHypothesis =>
    intro gate woken
    obtain ⟨later, same⟩ := unheeding_accept letter { gate with mailbox := rest } woken
    simp only [reads.cons, blind, same]
    obtain ⟨taken, question?, accepted⟩ : ∃ taken question?,
      { gate with mailbox := rest }.accept letter = (taken, question?) := ⟨_, _, rfl⟩
    simp only [accepted]
    split
    · exact ⟨woken, rfl⟩
    · cases question? with
      | some question => exact ⟨later, rfl⟩
      | none => exact inductionHypothesis taken later

theorem unheeding_tryNext : Unheeding tryNext := by
  intro gate woken
  simp only [tryNext]
  split
  · exact ⟨woken, rfl⟩
  · exact unheeding_firstOf gate.mailbox gate woken

theorem unheeding_drainUpTo (count : Nat) : Unheeding (drainUpTo · count) := by
  induction count with
  | zero => exact fun _ woken => ⟨woken, rfl⟩
  | succ count inductionHypothesis =>
    intro gate woken
    obtain ⟨later, same⟩ := unheeding_tryNext gate woken
    simp only [drainUpTo, same]
    obtain ⟨taken, question?, read⟩ : ∃ taken question?, gate.tryNext = (taken, question?) :=
      ⟨_, _, rfl⟩
    simp only [read]
    cases question? with
    | none => exact ⟨later, rfl⟩
    | some question =>
      obtain ⟨last, drained⟩ := inductionHypothesis taken later
      simp only [drained]
      exact ⟨last, rfl⟩

/-! ### Moves and runs -/

/-- No move depends on who was woken before. -/
theorem heedless_step (move : Move) : Heedless (step · move) := by
  cases move with
  | poll id => exact heedless_poll id
  | drop id => exact heedless_drop id
  | submit answer => exact heedless_submit answer
  | takeSeat =>
    intro gate woken
    simp only [step, takeSeat]
    split <;> exact ⟨woken, rfl⟩
  | tryNext => exact unheeding_tryNext.fst
  | drain => exact fun gate => (unheeding_drainUpTo gate.mailbox.length).fst gate
  | pollNext =>
    exact fun gate => (readsUntil_nextOf.unheeding (fun _ _ => rfl) gate.mailbox).fst gate
  | pollStream =>
    exact fun gate => (readsUntil_streamOf.unheeding (fun _ _ => rfl) gate.mailbox).fst gate
  | shutdown =>
    intro gate woken
    simp only [step, shutdown]
    split <;> exact ⟨_, rfl⟩
  | _ => exact fun _ _ => ⟨_, rfl⟩

/-- A handle is dropped. -/
def Move.isDropHandle : Move → Bool
  | .dropHandle _ => true
  | _ => false

/-- Dropping handles has no bearing on a run: without it the gate comes out the same, but for who
has been woken. -/
theorem run_without_dropHandle (gate : Gate) (moves : List Move) :
    ∃ woken, gate.run moves =
      { gate.run (moves.filter fun move => !move.isDropHandle) with woken } := by
  refine run_invariant (fun moves later => ∃ woken, later =
    { gate.run (moves.filter fun move => !move.isDropHandle) with woken }) gate ⟨_, rfl⟩ ?_ moves
  rintro moves move ⟨woken, same⟩
  rw [same, List.filter_append]
  cases isDrop : move.isDropHandle with
  | true =>
    rw [List.filter_cons_of_neg (by simp [isDrop]), List.filter_nil, List.append_nil]
    cases move with
    | dropHandle token => exact ⟨_, rfl⟩
    | _ => cases isDrop
  | false =>
    rw [List.filter_cons_of_pos (by simp [isDrop]), List.filter_nil, run_concat]
    exact heedless_step move _ woken

end OperatorDesk.Gate
