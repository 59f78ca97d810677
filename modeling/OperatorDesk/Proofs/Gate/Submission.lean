/-
This file follows the operator's answer. At a gate in order each pending exchange has an asker
that can hear the reply, so an answer is turned away only when nothing waits under its id or when
it breaks the question's rules. An answer that is taken goes to the asker of the exchange and into
the history, and takes the exchange out.
-/

import OperatorDesk.Proofs.Gate.Frame

namespace OperatorDesk.Gate

variable {gate : Gate}

theorem Orderly.canHear (orderly : gate.Orderly []) {exchange : Exchange}
    (member : exchange ∈ gate.pending) : gate.canHear exchange.asker = true := by
  obtain ⟨asker, known, owns⟩ := orderly.ownership.owned exchange member List.not_mem_nil
  rw [Gate.canHear, known, Option.any_some, Asker.isWaiting_eq_isSome, owns.number]
  rfl

/-- The gate after an answer was taken for a pending exchange. -/
def answered (gate : Gate) (exchange : Exchange) (answer : Answer) : Gate :=
  (((gate.removePending exchange.question.id).deliver exchange.asker answer).releaseOf
    exchange).record exchange answer

/-- The three fates of an answer. -/
theorem Orderly.submit_cases (orderly : gate.Orderly []) (answer : Answer) :
    gate.find? answer.questionId = none ∧
        gate.submit answer = (gate, .error (.notFound answer.questionId)) ∨
      (∃ exchange refusal, gate.find? answer.questionId = some exchange ∧
        exchange.question.refusal? answer = some refusal ∧
        gate.submit answer = (gate, .error (.refused refusal))) ∨
      ∃ exchange, gate.find? answer.questionId = some exchange ∧
        exchange.question.refusal? answer = none ∧
        gate.submit answer = (gate.answered exchange answer, .ok ()) := by
  cases found : gate.find? answer.questionId with
  | none => exact Or.inl ⟨rfl, by simp only [submit, found]⟩
  | some exchange =>
    cases judged : exchange.question.refusal? answer with
    | some refusal =>
      exact Or.inr (Or.inl ⟨exchange, refusal, rfl, judged, by simp only [submit, found, judged]⟩)
    | none =>
      refine Or.inr (Or.inr ⟨exchange, rfl, judged, ?_⟩)
      simp only [submit, found, judged, orderly.canHear (mem_of_find? found), if_true, answered,
        id_of_find? found]

/-- An answer that is not taken changes nothing. -/
theorem Orderly.refused_or_taken (orderly : gate.Orderly []) (answer : Answer) :
    (∃ failure, gate.submit answer = (gate, .error failure)) ∨
      ∃ exchange, gate.find? answer.questionId = some exchange ∧
        exchange.question.refusal? answer = none ∧
        gate.submit answer = (gate.answered exchange answer, .ok ()) := by
  rcases orderly.submit_cases answer with ⟨-, same⟩ | ⟨_, _, -, -, same⟩ | taken
  · exact Or.inl ⟨_, same⟩
  · exact Or.inl ⟨_, same⟩
  · exact Or.inr taken

/-! ### An answer that is taken -/

theorem deliver_frame (gate : Gate) (id : AskerId) (answer : Answer) :
    ∃ woken, gate.deliver id answer =
      { gate.updateAsker id ({ · with reply := some answer }) with woken } := by
  unfold deliver
  simp only
  split
  · exact ⟨_, rfl⟩
  · exact ⟨_, rfl⟩

/-- The asker of an answered exchange waits where it was, with the reply. -/
theorem Orderly.deliver (orderly : gate.Orderly []) {exchange : Exchange}
    (member : exchange ∈ gate.pending) (answer : Answer) :
    ∃ asker later, (gate.removePending exchange.question.id).deliver exchange.asker answer = later ∧
      gate.askers[exchange.asker]? = some asker ∧ asker.Owns exchange ∧ later.Orderly [] ∧
      later.askers[exchange.asker]? = some { asker with reply := some answer } ∧
      later.line = gate.line ∧ later.slots + exchange.holdsSlot.toNat = gate.slots := by
  have idle : ∀ other : AskerId, other ∉ ([] : List AskerId) := fun _ => List.not_mem_nil
  have found := orderly.distinctIds.find?_of_mem member
  obtain ⟨asker, known, owns⟩ := orderly.ownership.owned exchange member (idle _)
  have removed := (orderly.busier exchange.asker).removePending found (List.mem_singleton_self _)
  have gone : ∀ other ∈ (gate.removePending exchange.question.id).pending,
      other.asker ≠ exchange.asker := by
    intro other isOther same
    obtain ⟨isPending, elsewhere⟩ := mem_removePending.mp isOther
    have otherOwns := orderly.owns known isPending same
    have sameNumber := Option.some_inj.mp (otherOwns.number.symm.trans owns.number)
    exact elsewhere
      (congrArg (·.question.id) (orderly.registry.eq_of_number isPending member sameNumber))
  have fits : (gate.removePending exchange.question.id).Fits [] exchange.asker
      { asker with reply := some answer } := by
    refine ⟨?_, ?_, ?_, ?_, ?_, ?_, ?_, ?_⟩
    · exact fun other isOther same => absurd same (gone other isOther)
    · exact fun other isOther same => absurd same (gone other isOther)
    · intro _ _ silent
      cases silent
    · exact fun number hasNumber =>
        orderly.ownership.numbered exchange.asker asker number known (idle _) hasNumber
    · exact fun number hasNumber other current isCurrent different notBusy same => different
        (orderly.ownership.apart other exchange.asker current asker number isCurrent known notBusy
          (idle _) same hasNumber)
    · intro inLine
      obtain ⟨number, stage⟩ := orderly.stage_of_mem_line known inLine
      exact ⟨number, stage⟩
    · exact fun number stage =>
        orderly.inLine.stands exchange.asker asker number known (idle _) stage
    · intro unheard
      have hasNumber := owns.number
      rw [show asker.stage = .unheard from unheard] at hasNumber
      cases hasNumber
  have isKnown : (gate.removePending exchange.question.id).askers[exchange.asker]? = some asker :=
    known
  have updated := removed.updateAsker isKnown ({ · with reply := some answer }) fits
  have counted := slots_updateAsker isKnown ({ · with reply := some answer })
  have self := askers_updateAsker_self isKnown ({ · with reply := some answer })
  have slots := orderly.distinctIds.slots_removePending found
  obtain ⟨woken, same⟩ :=
    deliver_frame (gate.removePending exchange.question.id) exchange.asker answer
  refine ⟨asker, _, same, known, owns, { updated with }, self, rfl, ?_⟩
  rw [← slots, ← Nat.add_right_cancel counted]
  rfl

/-- An answer that is taken leaves the gate in order with as many slots as before. Its asker has
heard or will hear it. -/
theorem Orderly.answered (orderly : gate.Orderly []) {exchange : Exchange}
    (member : exchange ∈ gate.pending) (answer : Answer) :
    (gate.answered exchange answer).Orderly [] ∧
      (gate.answered exchange answer).slots = gate.slots ∧
      ∃ asker, gate.askers[exchange.asker]? = some asker ∧ asker.Owns exchange ∧
        (gate.answered exchange answer).askers[exchange.asker]? =
          some { asker with reply := some answer } := by
  obtain ⟨asker, later, same, known, owns, delivered, heard, line, counted⟩ :=
    orderly.deliver member answer
  have away : ∀ id ∈ ([] : List AskerId), id ∉ later.line :=
    fun _ nobody => absurd nobody List.not_mem_nil
  have self : (later.releaseOf exchange).askers[exchange.asker]? =
      some { asker with reply := some answer } := by
    cases holds : exchange.holdsSlot with
    | false =>
      rw [Gate.releaseOf, holds, if_neg Bool.false_ne_true]
      exact heard
    | true =>
      -- An exchange with a slot has an asker that listens, and so does not stand in line.
      have listening := owns.slot holds
      have absent : exchange.asker ∉ later.line := by
        rw [line]
        intro inLine
        obtain ⟨number, stage⟩ := orderly.stage_of_mem_line known inLine
        rw [listening] at stage
        cases stage
      rw [askers_releaseOf_of_not_mem later absent]
      exact heard
  have kept := delivered.releaseOf away exchange
  unfold Gate.answered
  rw [same]
  exact ⟨{ kept with }, (delivered.slots_releaseOf away exchange).trans counted, asker, known, owns,
    self⟩

/-- What taking an answer leaves alone. -/
theorem answered_frame (gate : Gate) (exchange : Exchange) (answer : Answer) :
    ∃ free line askers woken, gate.answered exchange answer =
      { gate with
        free, line, askers, woken
        pending := (gate.removePending exchange.question.id).pending
        history := gate.history ++
          [{ question := exchange.question, answer, askedAt := exchange.askedAt,
             answeredAt := gate.wallClock }] } := by
  obtain ⟨woken, same⟩ :=
    deliver_frame (gate.removePending exchange.question.id) exchange.asker answer
  unfold Gate.answered
  rw [same, Gate.releaseOf]
  split
  · obtain ⟨free, line, askers, later, released⟩ := releaseSlot_frame
      { (gate.removePending exchange.question.id).updateAsker exchange.asker
          ({ · with reply := some answer }) with woken }
    rw [released]
    exact ⟨free, line, askers, later, rfl⟩
  · exact ⟨_, _, _, _, rfl⟩

/-- Those who did not ask the question wait on when its answer is taken. -/
theorem waitsOn_answered (gate : Gate) {exchange : Exchange} {id : AskerId}
    (different : id ≠ exchange.asker) (answer : Answer) :
    gate.WaitsOn (gate.answered exchange answer) id := by
  obtain ⟨woken, same⟩ :=
    deliver_frame (gate.removePending exchange.question.id) exchange.asker answer
  have delivered : gate.WaitsOn
      ((gate.removePending exchange.question.id).deliver exchange.asker answer) id := by
    rw [same]
    exact Or.inl (askers_updateAsker_of_ne _ different _)
  have released := (touches_releaseOf
    ((gate.removePending exchange.question.id).deliver exchange.asker answer) exchange
    []).others id List.not_mem_nil
  exact delivered.trans released

end OperatorDesk.Gate
