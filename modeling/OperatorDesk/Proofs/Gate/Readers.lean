/-
This file shows that the three readers agree. One looks for the signal of the closing once, one
before each letter, and one looks at the gate's state as well; each of them passes over stale
letters on its own. Yet in every state that a gate can come to they find the same question and
leave the same gate behind, or there is none and those that may wait are told to, or the gate is
closed and all of them are told that nothing will come.
-/

import OperatorDesk.Proofs.Gate.Stream

namespace OperatorDesk.Gate

variable {gate : Gate}

/-- While the gate is open, the readers that may wait find what the one finds that does not. -/
theorem Orderly.polls_eq_tryNext (orderly : gate.Orderly []) (isOpen : gate.closed = false) :
    gate.pollNext = (gate.tryNext.1, Reading.orPending gate.tryNext.2) ∧
      gate.pollStream = (gate.tryNext.1, Reading.orPending gate.tryNext.2) := by
  have told := orderly.closing.told
  have silent : gate.signalled = false := told.trans isOpen
  have same : gate.tryNext = gate.firstOf gate.mailbox := if_neg (Bool.eq_false_iff.mp silent)
  have polled := nextOf_eq_firstOf silent gate.mailbox
  rw [same]
  exact ⟨polled, (streamOf_eq_nextOf told gate.mailbox).trans polled⟩

/-- What finds no question at an open gate takes the stale letters away, and nothing else. -/
theorem Orderly.tryNext_eq_none (orderly : gate.Orderly []) (isOpen : gate.closed = false)
    {later : Gate} (nothing : gate.tryNext = (later, none)) :
    gate.unread = [] ∧ later = { gate with mailbox := [] } := by
  have parks : gate.parks .pollNext := by
    rw [Gate.parks, (orderly.polls_eq_tryNext isOpen).1, nothing]
    rfl
  obtain ⟨none, same⟩ := orderly.step_of_parks parks
  refine ⟨none, same ▸ ?_⟩
  rw [Gate.step, (orderly.polls_eq_tryNext isOpen).1, nothing]

/-- If there is a question, all readers get it and leave the same gate. If there is none and the
gate is open, the letters were stale and are gone, and the readers that may wait have to. If the
gate is closed, all readers come to their end and change nothing. -/
theorem readers_agree (settings : GateSettings) (moves : List Move)
    (reached : (new settings).run moves = gate) :
    (∀ later question, gate.tryNext = (later, some question) →
      gate.pollNext = (later, .question question) ∧
        gate.pollStream = (later, .question question)) ∧
    (∀ later, gate.tryNext = (later, none) → gate.closed = false →
      gate.pollNext = (later, .pending) ∧ gate.pollStream = (later, .pending) ∧
        gate.unread = [] ∧ later = { gate with mailbox := [] }) ∧
    (gate.closed = true → gate.tryNext = (gate, none) ∧ gate.pollNext = (gate, .over) ∧
      gate.pollStream = (gate, .over)) := by
  have orderly : gate.Orderly [] := reached ▸ orderly_run settings moves
  refine ⟨fun later question found => ?_, fun later nothing isOpen => ?_, fun isClosed => ?_⟩
  · have isOpen : gate.closed = false := by
      refine Bool.eq_false_iff.mpr fun isClosed => ?_
      rw [(orderly.over isClosed).tryNext] at found
      cases found
    have polls := orderly.polls_eq_tryNext isOpen
    rw [found] at polls
    exact polls
  · have polls := orderly.polls_eq_tryNext isOpen
    rw [nothing] at polls
    exact ⟨polls.1, polls.2, orderly.tryNext_eq_none isOpen nothing⟩
  · have isOver := orderly.over isClosed
    exact ⟨isOver.tryNext, isOver.pollNext, isOver.pollStream⟩

/-- Two questions are queued, the first is given up, and then something more happens. -/
def givenUpAnd (more : List Move) : Gate :=
  (new { capacity := 2, defaultTimeout := none }).run
    (crowdingWithTokens ++ [.cancel 0, .poll 0] ++ more)

/-- The letter of the first question is passed over. If the second is given up as well, the readers
have to wait; if the gate is closed instead, its letter is not read any more. -/
theorem readers_agree_givenUp :
    (givenUpAnd []).mailbox.map Letter.number = [1, 2] ∧
      (givenUpAnd []).pollStream =
        ((givenUpAnd []).tryNext.1, .question (.plain "Q-2" "Which name?")) ∧
      (givenUpAnd [.cancel 1, .poll 1]).mailbox.map Letter.number = [1, 2] ∧
      (givenUpAnd [.cancel 1, .poll 1]).pollNext =
        ({ givenUpAnd [.cancel 1, .poll 1] with mailbox := [] }, .pending) ∧
      (givenUpAnd [.shutdown]).mailbox.map Letter.number = [1, 2] ∧
      (givenUpAnd [.shutdown]).pollNext = (givenUpAnd [.shutdown], .over) := by
  have agree : ∀ more, _ := fun more =>
    readers_agree { capacity := 2, defaultTimeout := none } _ (rfl : _ = givenUpAnd more)
  have found : (givenUpAnd []).tryNext =
      ((givenUpAnd []).tryNext.1, some (.plain "Q-2" "Which name?")) := by decide
  obtain ⟨polled, -, -, same⟩ :=
    (agree [.cancel 1, .poll 1]).2.1 _ (rfl : _ = (_, none)) (by decide)
  refine ⟨by decide, ((agree []).1 _ _ found).2, by decide, ?_, by decide, ?_⟩
  · rw [same] at polled
    exact polled
  · exact ((agree [.shutdown]).2.2 (by decide)).2.1

end OperatorDesk.Gate
