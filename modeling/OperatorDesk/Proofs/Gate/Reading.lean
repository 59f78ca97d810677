/-
This file shows that readers keep a gate in order and the number of slots. A letter whose exchange
is pending is read and the slot of the exchange given back; any other letter is passed over. What
one letter does not change, the readers do not change either, since each of them takes letter
after letter from the front of the mailbox.
-/

import OperatorDesk.Proofs.Gate.Frame

namespace OperatorDesk.Gate

variable {gate : Gate} {letter : Letter} {rest : List Letter}

/-! ### One letter -/

theorem accept_of_isCurrent {exchange : Exchange}
    (found : gate.find? letter.question.id = some exchange)
    (same : exchange.number = letter.number) :
    gate.accept letter =
      ((gate.markSlot letter.question.id false).releaseOf exchange, some letter.question) := by
  simp only [accept, found, if_pos same]

theorem accept_of_not_isCurrent
    (stale : gate.isCurrent letter.question.id letter.number = false) :
    gate.accept letter = (gate, none) := by
  unfold accept
  cases found : gate.find? letter.question.id with
  | none => rfl
  | some exchange =>
    have different : exchange.number ≠ letter.number := by
      simpa [isCurrent, found] using stale
    simp only [if_neg different]

/-- A letter counts exactly while its exchange is pending. -/
theorem Orderly.isCurrent_iff {busy : List AskerId} (orderly : gate.Orderly busy)
    (isLetter : letter ∈ gate.mailbox) :
    gate.isCurrent letter.question.id letter.number = true ↔
      ∃ exchange ∈ gate.pending, exchange.number = letter.number := by
  constructor
  · intro current
    obtain ⟨exchange, found, same⟩ := (Option.any_eq_true _ _).mp current
    exact ⟨exchange, mem_of_find? found, beq_iff_eq.mp same⟩
  · rintro ⟨exchange, member, same⟩
    have sameQuestion := (orderly.mail.unread letter isLetter exchange member same).2
    rw [isCurrent, ← sameQuestion, orderly.distinctIds.find?_of_mem member, Option.any_some, same,
      beq_self_eq_true]

/-- Reading the first letter leaves the gate in order with as many slots as before. -/
theorem Orderly.readLetter (orderly : gate.Orderly []) (isFirst : gate.mailbox = letter :: rest) :
    ({ gate with mailbox := rest }.accept letter).1.Orderly [] ∧
      ({ gate with mailbox := rest }.accept letter).1.slots = gate.slots := by
  have isLetter : letter ∈ gate.mailbox := isFirst ▸ List.mem_cons_self
  have subset : ∀ {other : Letter}, other ∈ rest → other ∈ gate.mailbox :=
    fun member => isFirst ▸ List.mem_cons_of_mem letter member
  have split : ∀ {other : Letter}, other ∈ gate.mailbox → other ≠ letter → other ∈ rest := by
    intro other member different
    rw [isFirst] at member
    exact (List.mem_cons.mp member).resolve_left different
  have apart := orderly.mail.apart
  rw [isFirst, List.pairwise_cons] at apart
  cases current : gate.isCurrent letter.question.id letter.number with
  | false =>
    have stale : { gate with mailbox := rest }.isCurrent letter.question.id letter.number = false :=
      current
    rw [accept_of_not_isCurrent stale]
    refine ⟨{ orderly with mail := ⟨apart.2, ?_, ?_, ?_⟩ }, rfl⟩
    · exact fun other member => orderly.mail.numbered other (subset member)
    · exact fun other member => orderly.mail.unread other (subset member)
    · intro exchange member idle holds readable
      obtain ⟨other, isOther, same⟩ := orderly.mail.posted exchange member idle holds readable
      refine ⟨other, split isOther fun equal => ?_, same⟩
      rw [(orderly.isCurrent_iff isLetter).mpr ⟨exchange, member, equal ▸ same.symm⟩] at current
      cases current
  | true =>
    obtain ⟨read, member, sameNumber⟩ := (orderly.isCurrent_iff isLetter).mp current
    obtain ⟨holds, sameQuestion⟩ := orderly.mail.unread letter isLetter read member sameNumber
    have found := orderly.distinctIds.find?_of_mem member
    have isFound : { gate with mailbox := rest }.find? letter.question.id = some read := by
      rw [← sameQuestion]
      exact found
    rw [accept_of_isCurrent isFound sameNumber, ← sameQuestion]
    have isMember := fun {exchange : Exchange} =>
      orderly.distinctIds.mem_markSlot found false exchange
    have mail : Mail rest (gate.markSlot read.question.id false).pending gate.registered gate.seat
        [] := by
      refine ⟨apart.2, fun other later => orderly.mail.numbered other (subset later), ?_, ?_⟩
      · intro other later exchange marked same
        rcases isMember.mp marked with rfl | ⟨before, -⟩
        · exact absurd (sameNumber.symm.trans same) (apart.1 other later)
        · exact orderly.mail.unread other (subset later) exchange before same
      · intro exchange marked idle holdsSlot readable
        rcases isMember.mp marked with rfl | ⟨before, elsewhere⟩
        · cases holdsSlot
        · obtain ⟨other, isOther, same⟩ :=
            orderly.mail.posted exchange before idle holdsSlot readable
          refine ⟨other, split isOther fun equal => elsewhere ?_, same⟩
          rw [(orderly.mail.unread other isOther exchange before same.symm).2, equal, sameQuestion]
    have marked : ({ gate with mailbox := rest }.markSlot read.question.id false).Orderly [] :=
      orderly.markSlot found mail fun impossible => by cases impossible
    have counted := orderly.distinctIds.slots_markSlot found false
    have away : ∀ id ∈ ([] : List AskerId),
        id ∉ ({ gate with mailbox := rest }.markSlot read.question.id false).line :=
      fun _ nobody => absurd nobody List.not_mem_nil
    exact ⟨marked.releaseOf away read, (marked.slots_releaseOf away read).trans counted⟩

theorem touches_accept (gate : Gate) (letter : Letter) (busy : List AskerId) :
    gate.Touches (gate.accept letter).1 busy := by
  unfold accept
  split
  · split
    · exact (touches_markSlot gate _ false busy).trans (touches_releaseOf _ _ busy)
    · exact Touches.refl gate busy
  · exact Touches.refl gate busy

theorem mailbox_accept (gate : Gate) (letter : Letter) :
    (gate.accept letter).1.mailbox = gate.mailbox := by
  unfold accept
  split
  · split
    · unfold releaseOf
      split
      · obtain ⟨_, _, _, _, same⟩ := releaseSlot_frame (gate.markSlot letter.question.id false)
        rw [same]
        rfl
      · rfl
    · rfl
  · rfl

/-! ### Letter after letter -/

/-- A reader that may wait makes a test for the end before each letter. -/
structure ReadsUntil (isOver : Gate → Bool) (reader : Gate → List Letter → Gate × Reading) :
    Prop where
  nil (gate : Gate) : reader gate [] =
    if isOver gate then (gate, .over) else ({ gate with mailbox := [] }, .pending)
  cons (gate : Gate) (letter : Letter) (rest : List Letter) : reader gate (letter :: rest) =
    if isOver gate then (gate, .over)
    else
      match { gate with mailbox := rest }.accept letter with
      | (gate, some question) => (gate, .question question)
      | (gate, none) => reader gate rest

/-- One of these readers looks for the signal of the closing. -/
theorem readsUntil_nextOf : ReadsUntil signalled nextOf :=
  ⟨fun _ => rfl, fun _ _ _ => rfl⟩

/-- The other one looks at the gate's state as well. -/
theorem readsUntil_streamOf : ReadsUntil (fun gate => gate.closed || gate.signalled) streamOf :=
  ⟨fun _ => rfl, fun _ _ _ => rfl⟩

section Readers

variable (kept : Gate → Prop)
  (read : ∀ (gate : Gate) (letter : Letter) (rest : List Letter), gate.mailbox = letter :: rest →
    kept gate → kept ({ gate with mailbox := rest }.accept letter).1)

include read

theorem kept_firstOf (letters : List Letter) (gate : Gate) (isMailbox : gate.mailbox = letters)
    (start : kept gate) : kept (gate.firstOf letters).1 := by
  induction letters generalizing gate with
  | nil =>
    rw [firstOf, ← isMailbox]
    exact start
  | cons letter rest inductionHypothesis =>
    have after := read gate letter rest isMailbox start
    have mailbox := mailbox_accept { gate with mailbox := rest } letter
    unfold firstOf
    split
    · next same =>
      rw [same] at after
      exact after
    · next same =>
      rw [same] at after mailbox
      exact inductionHypothesis _ mailbox after

theorem kept_tryNext (gate : Gate) (start : kept gate) : kept gate.tryNext.1 := by
  unfold tryNext
  split
  · exact start
  · exact kept_firstOf kept read gate.mailbox gate rfl start

theorem kept_drainUpTo (count : Nat) (gate : Gate) (start : kept gate) :
    kept (gate.drainUpTo count).1 := by
  induction count generalizing gate with
  | zero => exact start
  | succ count inductionHypothesis =>
    have after := kept_tryNext kept read gate start
    unfold drainUpTo
    split
    · next same =>
      rw [same] at after
      exact after
    · next same =>
      rw [same] at after
      exact inductionHypothesis _ after

theorem kept_of_readsUntil {isOver : Gate → Bool}
    {reader : Gate → List Letter → Gate × Reading} (reads : ReadsUntil isOver reader)
    (letters : List Letter) (gate : Gate) (isMailbox : gate.mailbox = letters)
    (start : kept gate) : kept (reader gate letters).1 := by
  induction letters generalizing gate with
  | nil =>
    rw [reads.nil]
    split
    · exact start
    · rw [← isMailbox]
      exact start
  | cons letter rest inductionHypothesis =>
    have after := read gate letter rest isMailbox start
    have mailbox := mailbox_accept { gate with mailbox := rest } letter
    rw [reads.cons]
    split
    · exact start
    · split
      · next same =>
        rw [same] at after
        exact after
      · next same =>
        rw [same] at after mailbox
        exact inductionHypothesis _ mailbox after

/-- What reading one letter keeps, every reader keeps. -/
theorem kept_reading (gate : Gate) (start : kept gate) :
    kept gate.tryNext.1 ∧ kept gate.drain.1 ∧ kept gate.pollNext.1 ∧ kept gate.pollStream.1 :=
  ⟨kept_tryNext kept read gate start,
    kept_drainUpTo kept read gate.mailbox.length gate start,
    kept_of_readsUntil kept read readsUntil_nextOf gate.mailbox gate rfl start,
    kept_of_readsUntil kept read readsUntil_streamOf gate.mailbox gate rfl start⟩

end Readers

end OperatorDesk.Gate
