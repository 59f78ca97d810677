/-
This file shows that a turn of an asker keeps the gate in order and the number of slots. Inside a
turn the asker is busy: it stands in no line, and the pending exchange that is its own, if there
still is one, bears its number. A turn ends in one of three ways: the ask ends and takes its
exchange with it, or the asker listens for a reply, or it gets in line.
-/

import OperatorDesk.Proofs.Gate.Frame

namespace OperatorDesk.Gate

/-- The asker is busy with a turn under this number. -/
structure Turn (gate : Gate) (id : AskerId) (asker : Asker) (number : Nat) : Prop where
  orderly : gate.Orderly [id]
  known : gate.askers[id]? = some asker
  away : id ∉ gate.line
  own : ∀ exchange ∈ gate.pending, exchange.asker = id →
    exchange.number = number ∧ exchange.question = asker.question ∧ asker.reply = none
  posted : ∀ exchange ∈ gate.pending, exchange.asker = id → exchange.holdsSlot = true →
    gate.seat ≠ .gone → ∃ letter ∈ gate.mailbox, letter.number = exchange.number
  awaits : asker.reply = none → gate.closed = false → ∃ exchange ∈ gate.pending, exchange.asker = id
  numbered : number ≤ gate.registered
  alone : ∀ other known, gate.askers[other]? = some known → other ≠ id →
    known.stage.number? ≠ some number

variable {gate : Gate} {id : AskerId} {asker : Asker} {number : Nat}

/-! ### The exchange of the asker that has the turn -/

namespace Turn

theorem only_away (turn : gate.Turn id asker number) : ∀ busy ∈ [id], busy ∉ gate.line := by
  intro busy member
  rw [List.mem_singleton.mp member]
  exact turn.away

/-- Nobody else's exchange bears the number. -/
theorem isOwn_of_number (turn : gate.Turn id asker number) {exchange : Exchange}
    (member : exchange ∈ gate.pending) (same : exchange.number = number) :
    exchange.asker = id := by
  by_contra different
  obtain ⟨owner, known, owns⟩ := turn.orderly.ownership.owned exchange member
    (fun isBusy => different (List.mem_singleton.mp isBusy))
  exact turn.alone exchange.asker owner known different (same ▸ owns.number)

theorem find?_of_own (turn : gate.Turn id asker number) {exchange : Exchange}
    (member : exchange ∈ gate.pending) (isOwn : exchange.asker = id) :
    gate.find? asker.question.id = some exchange := by
  rw [← (turn.own exchange member isOwn).2.1]
  exact turn.orderly.distinctIds.find?_of_mem member

theorem isCurrent_of_own (turn : gate.Turn id asker number) {exchange : Exchange}
    (member : exchange ∈ gate.pending) (isOwn : exchange.asker = id) :
    gate.isCurrent asker.question.id number = true := by
  rw [isCurrent, turn.find?_of_own member isOwn, Option.any_some,
    (turn.own exchange member isOwn).1, beq_self_eq_true]

theorem own_of_isCurrent (turn : gate.Turn id asker number)
    (current : gate.isCurrent asker.question.id number = true) :
    ∃ exchange ∈ gate.pending, exchange.asker = id := by
  obtain ⟨exchange, found, same⟩ := (Option.any_eq_true _ _).mp current
  exact ⟨exchange, mem_of_find? found,
    turn.isOwn_of_number (mem_of_find? found) (beq_iff_eq.mp same)⟩

end Turn

/-! ### Retracting -/

theorem retract_of_isCurrent {gate : Gate} {id : String} {number : Nat} {exchange : Exchange}
    (found : gate.find? id = some exchange) (same : exchange.number = number) :
    gate.retract id number = ((gate.removePending id).releaseOf exchange, true) := by
  simp only [retract, found, if_pos same]

theorem retract_of_not_isCurrent {gate : Gate} {id : String} {number : Nat}
    (gone : gate.isCurrent id number = false) : gate.retract id number = (gate, false) := by
  unfold retract
  cases found : gate.find? id with
  | none => rfl
  | some exchange =>
    have different : exchange.number ≠ number := by simpa [isCurrent, found] using gone
    simp only [if_neg different]

/-- After its exchange has been retracted the asker has nothing left at the gate, and all slots
count as before. -/
theorem Turn.retract (turn : gate.Turn id asker number) :
    ∃ later, (gate.retract asker.question.id number).1 = later ∧ later.Orderly [id] ∧
      later.askers[id]? = some asker ∧ id ∉ later.line ∧
      (∀ exchange ∈ later.pending, exchange.asker ≠ id) ∧ later.slots = gate.slots := by
  refine ⟨_, rfl, ?_⟩
  cases current : gate.isCurrent asker.question.id number with
  | false =>
    rw [retract_of_not_isCurrent current]
    refine ⟨turn.orderly, turn.known, turn.away, fun exchange member isOwn => ?_, rfl⟩
    rw [turn.isCurrent_of_own member isOwn] at current
    cases current
  | true =>
    obtain ⟨own, member, isOwn⟩ := turn.own_of_isCurrent current
    have found := turn.find?_of_own member isOwn
    obtain ⟨sameNumber, sameQuestion, -⟩ := turn.own own member isOwn
    rw [retract_of_isCurrent found sameNumber]
    rw [← sameQuestion] at found ⊢
    have removed := turn.orderly.removePending found (List.mem_singleton.mpr isOwn)
    have counted := turn.orderly.distinctIds.slots_removePending found
    refine ⟨removed.releaseOf turn.only_away own, ?_, ?_, ?_, ?_⟩
    · rw [askers_releaseOf_of_not_mem (gate.removePending own.question.id) turn.away own]
      exact turn.known
    · exact fun inLine => turn.away (mem_line_of_mem_releaseOf (gate.removePending _) inLine)
    · intro exchange isMember sameAsker
      rw [pending_releaseOf, mem_removePending] at isMember
      have same := (turn.own exchange isMember.1 sameAsker).2.1
      exact isMember.2 (by rw [same, sameQuestion])
    · rw [removed.slots_releaseOf turn.only_away own]
      exact counted

/-! ### Ending the ask -/

theorem Orderly.conclude {busy : List AskerId} (orderly : gate.Orderly (id :: busy))
    (known : gate.askers[id]? = some asker) (away : id ∉ gate.line)
    (gone : ∀ exchange ∈ gate.pending, exchange.asker ≠ id) (outcome : Outcome) :
    (gate.conclude id outcome).Orderly busy := by
  refine orderly.updateAsker known ({ · with stage := .ended outcome }) ?_
  refine ⟨?_, ?_, ?_, ?_, ?_, fun member => absurd member away, ?_, ?_⟩
  · exact fun exchange member isOwn => absurd isOwn (gone exchange member)
  · exact fun exchange member isOwn => absurd isOwn (gone exchange member)
  · intro _ waits
    cases waits
  · intro _ waits
    cases waits
  · intro _ waits
    cases waits
  · intro _ waits
    cases waits
  · intro waits
    cases waits

/-- An ask that ends takes its exchange along and leaves the gate in order. -/
theorem Turn.leave (turn : gate.Turn id asker number) (outcome : Outcome) :
    (gate.leave id asker number outcome).Orderly [] ∧
      (gate.leave id asker number outcome).slots + asker.stage.isGranted.toNat = gate.slots := by
  obtain ⟨later, same, orderly, known, away, gone, counted⟩ := turn.retract
  rw [Gate.leave, same]
  refine ⟨orderly.conclude known away gone outcome, ?_⟩
  have moved := slots_setStage known (.ended outcome)
  rw [counted] at moved
  exact moved

/-! ### Listening -/

/-- An asker whose exchange is pending can listen for the reply. -/
theorem Turn.listening (turn : gate.Turn id asker number) {own : Exchange}
    (member : own ∈ gate.pending) (isOwn : own.asker = id) :
    (gate.setStage id (.listening number)).Orderly [] ∧
      (gate.setStage id (.listening number)).slots + asker.stage.isGranted.toNat =
        gate.slots := by
  constructor
  · refine turn.orderly.updateAsker turn.known ({ · with stage := .listening number }) ?_
    refine ⟨?_, turn.posted, ?_, ?_, ?_, fun inLine => absurd inLine turn.away, ?_, ?_⟩
    · intro exchange isMember same
      obtain ⟨sameNumber, sameQuestion, silent⟩ := turn.own exchange isMember same
      exact ⟨sameQuestion.symm, silent, by rw [sameNumber]; rfl, fun _ => by rw [sameNumber]⟩
    · exact fun _ _ _ _ => ⟨own, member, isOwn⟩
    · intro other waits
      rw [← Option.some_inj.mp waits]
      exact turn.numbered
    · intro other waits position current isCurrent different _
      rw [← Option.some_inj.mp waits]
      exact turn.alone position current isCurrent different
    · intro _ waits
      cases waits
    · intro waits
      cases waits
  · exact slots_setStage turn.known (.listening number)

/-- How listening ends the ask, if it does. -/
def heard (gate : Gate) (asker : Asker) (number : Nat) : Option Outcome :=
  match asker.reply with
  | some answer => some (.answered answer)
  | none =>
    if gate.isCurrent asker.question.id number then
      (asker.context.signal gate.used gate.served).map fun ending =>
        .failed (failureOf asker.question.id ending)
    else some (.failed .closed)

/-- How an ask ends whose context has ended. -/
def earlyOutcome (gate : Gate) (asker : Asker) (number : Nat) (ending : Ending) : Outcome :=
  if gate.isCurrent asker.question.id number then .failed (failureOf asker.question.id ending)
  else
    match asker.reply with
    | some answer => .answered answer
    | none => .failed .closed

theorem finishEarly_eq_leave (gate : Gate) (id : AskerId) (asker : Asker) (number : Nat)
    (ending : Ending) :
    gate.finishEarly id asker number ending =
      gate.leave id asker number (gate.earlyOutcome asker number ending) := by
  cases current : gate.isCurrent asker.question.id number with
  | false =>
    simp only [finishEarly, leave, retract_of_not_isCurrent current, earlyOutcome, current]
    cases asker.reply <;> rfl
  | true =>
    obtain ⟨exchange, found, same⟩ := (Option.any_eq_true _ _).mp current
    simp only [finishEarly, leave, retract_of_isCurrent found (beq_iff_eq.mp same), earlyOutcome,
      current, if_true]

/-- Listening ends the ask in the way that is heard, or goes on. -/
theorem Turn.listen_eq (turn : gate.Turn id asker number) :
    gate.listen id asker number =
      match gate.heard asker number with
      | some outcome => gate.leave id asker number outcome
      | none => gate.setStage id (.listening number) := by
  cases current : gate.isCurrent asker.question.id number with
  | true =>
    obtain ⟨own, member, isOwn⟩ := turn.own_of_isCurrent current
    have silent := (turn.own own member isOwn).2.2
    simp only [Gate.listen, heard, silent, current, if_true]
    cases asker.context.signal gate.used gate.served with
    | none => rfl
    | some ending =>
      simp only [finishEarly_eq_leave, earlyOutcome, current, if_true, Option.map_some]
  | false =>
    cases reply : asker.reply <;>
      simp only [Gate.listen, heard, reply, current, Gate.leave,
        retract_of_not_isCurrent current, Bool.false_eq_true, if_false]

/-- Listening leaves the gate in order. -/
theorem Turn.listen (turn : gate.Turn id asker number) :
    (gate.listen id asker number).Orderly [] ∧
      (gate.listen id asker number).slots + asker.stage.isGranted.toNat = gate.slots := by
  rw [turn.listen_eq]
  cases hears : gate.heard asker number with
  | some outcome => exact turn.leave outcome
  | none =>
    have current : gate.isCurrent asker.question.id number = true := by
      unfold heard at hears
      split at hears
      · cases hears
      · split at hears
        · assumption
        · cases hears
    obtain ⟨own, member, isOwn⟩ := turn.own_of_isCurrent current
    exact turn.listening member isOwn

/-! ### With a slot in hand -/

theorem Turn.own_unique (turn : gate.Turn id asker number) {left right : Exchange}
    (memberLeft : left ∈ gate.pending) (memberRight : right ∈ gate.pending)
    (ownLeft : left.asker = id) (ownRight : right.asker = id) : left = right :=
  turn.orderly.registry.eq_of_number memberLeft memberRight
    ((turn.own left memberLeft ownLeft).1.trans (turn.own right memberRight ownRight).1.symm)

/-- The asker can give a slot back that it has in hand. -/
theorem Turn.releaseSlot (turn : gate.Turn id asker number) :
    gate.releaseSlot.Turn id asker number := by
  have orderly := turn.orderly.releaseSlot turn.only_away
  have known : gate.releaseSlot.askers[id]? = some asker := by
    rw [askers_releaseSlot_of_not_mem turn.away]
    exact turn.known
  have away : id ∉ gate.releaseSlot.line :=
    fun inLine => turn.away (mem_line_of_mem_releaseSlot inLine)
  have alone : ∀ other current, gate.releaseSlot.askers[other]? = some current → other ≠ id →
      current.stage.number? ≠ some number := by
    intro other current isCurrent different
    rcases waitsOn_releaseSlot gate other with same | handed
    · exact turn.alone other current (same ▸ isCurrent) different
    · rw [isCurrent] at handed
      obtain ⟨before, isBefore, rfl⟩ := Option.map_eq_some_iff.mp handed.symm
      rw [Asker.number?_handed]
      exact turn.alone other before isBefore different
  obtain ⟨_, _, _, _, same⟩ := releaseSlot_frame gate
  rw [same] at orderly known away alone ⊢
  exact ⟨orderly, known, away, turn.own, turn.posted, turn.awaits, turn.numbered, alone⟩

/-- With a slot in hand and nobody to read, the exchange gets the slot and no letter. -/
theorem Turn.hold (turn : gate.Turn id asker number) {own : Exchange}
    (member : own ∈ gate.pending) (isOwn : own.asker = id) (slotless : own.holdsSlot = false)
    (deserted : gate.seat = .gone) :
    (gate.markSlot asker.question.id true).Turn id asker number := by
  have found := turn.find?_of_own member isOwn
  obtain ⟨sameNumber, sameQuestion, silent⟩ := turn.own own member isOwn
  rw [← sameQuestion] at found ⊢
  have isBusy : own.asker ∈ [id] := List.mem_singleton.mpr isOwn
  have isMember := fun {exchange : Exchange} =>
    turn.orderly.distinctIds.mem_markSlot found true exchange
  refine ⟨turn.orderly.markSlot found (turn.orderly.mail_markSlot found slotless isBusy)
    (fun _ => isBusy), turn.known, turn.away, ?_, ?_, ?_, turn.numbered, turn.alone⟩
  · intro exchange marked same
    rcases isMember.mp marked with rfl | ⟨isPending, -⟩
    · exact ⟨sameNumber, sameQuestion, silent⟩
    · exact turn.own exchange isPending same
  · exact fun _ _ _ _ readable => absurd deserted readable
  · exact fun _ _ => ⟨{ own with holdsSlot := true }, isMember.mpr (Or.inl rfl), isOwn⟩

/-- With a slot in hand the question is put into the mailbox. -/
theorem Turn.queue (turn : gate.Turn id asker number) {own : Exchange}
    (member : own ∈ gate.pending) (isOwn : own.asker = id) (slotless : own.holdsSlot = false) :
    ((gate.markSlot asker.question.id true).post number asker.question).Turn id asker number := by
  have found := turn.find?_of_own member isOwn
  obtain ⟨sameNumber, sameQuestion, silent⟩ := turn.own own member isOwn
  rw [← sameQuestion] at found ⊢
  have isBusy : own.asker ∈ [id] := List.mem_singleton.mpr isOwn
  have isMember := fun {exchange : Exchange} =>
    turn.orderly.distinctIds.mem_markSlot found true exchange
  have marked : (gate.markSlot own.question.id true).Orderly [id] :=
    turn.orderly.markSlot found (turn.orderly.mail_markSlot found slotless isBusy) fun _ => isBusy
  have fresh : ∀ letter ∈ gate.mailbox, letter.number ≠ own.number := by
    intro letter isLetter same
    have holds := (turn.orderly.mail.unread letter isLetter own member same.symm).1
    rw [slotless] at holds
    cases holds
  have queued := marked.post (isMember.mpr (Or.inl rfl)) rfl fresh
  obtain ⟨woken, posted⟩ := post_frame (gate.markSlot own.question.id true) number own.question
  rw [← sameNumber] at posted ⊢
  rw [posted] at queued ⊢
  refine ⟨queued, turn.known, turn.away, ?_, ?_, ?_, sameNumber ▸ turn.numbered,
    sameNumber ▸ turn.alone⟩
  · intro exchange isPending same
    rcases isMember.mp isPending with rfl | ⟨before, -⟩
    · exact ⟨rfl, sameQuestion, silent⟩
    · rw [sameNumber]
      exact turn.own exchange before same
  · intro exchange isPending same _ _
    rcases isMember.mp isPending with rfl | ⟨before, elsewhere⟩
    · exact ⟨_, List.mem_append_right _ (List.mem_singleton_self _), rfl⟩
    · exact absurd (congrArg (·.question.id) (turn.own_unique before member same isOwn)) elsewhere
  · exact fun _ _ => ⟨{ own with holdsSlot := true }, isMember.mpr (Or.inl rfl), isOwn⟩

/-- A slot in hand is used or given back, and the gate is in order afterwards. -/
theorem Turn.useSlot (turn : gate.Turn id asker number)
    (slotless : ∀ exchange ∈ gate.pending, exchange.asker = id → exchange.holdsSlot = false) :
    (gate.useSlot id asker number).Orderly [] ∧
      (gate.useSlot id asker number).slots + asker.stage.isGranted.toNat = gate.slots + 1 := by
  cases current : gate.isCurrent asker.question.id number with
  | false =>
    simp only [Gate.useSlot, current, Bool.false_eq_true, if_false]
    obtain ⟨orderly, counted⟩ := turn.releaseSlot.listen
    exact ⟨orderly, counted.trans (turn.orderly.slots_releaseSlot turn.only_away)⟩
  | true =>
    obtain ⟨own, member, isOwn⟩ := turn.own_of_isCurrent current
    have ownSlotless := slotless own member isOwn
    have found := turn.find?_of_own member isOwn
    have counted := turn.orderly.distinctIds.slots_markSlot found true
    rw [ownSlotless, Bool.toNat_false, Bool.toNat_true, Nat.add_zero] at counted
    simp only [Gate.useSlot, current, if_true]
    split
    · next deserted =>
      obtain ⟨orderly, left⟩ := (turn.hold member isOwn ownSlotless deserted).leave
        (.failed .closed)
      exact ⟨orderly, left.trans counted⟩
    · obtain ⟨orderly, listened⟩ := (turn.queue member isOwn ownSlotless).listen
      refine ⟨orderly, listened.trans ?_⟩
      obtain ⟨woken, posted⟩ :=
        post_frame (gate.markSlot asker.question.id true) number asker.question
      rw [posted]
      exact counted

/-! ### Without a slot -/

/-- An asker takes a slot that is free, for which nobody stands in line. -/
theorem Turn.takeFree (turn : gate.Turn id asker number) (some : 0 < gate.free) :
    { gate with free := gate.free - 1 }.Turn id asker number := by
  have nobody : gate.line = [] := by
    by_contra nonempty
    rw [turn.orderly.inLine.exhausted nonempty] at some
    exact Nat.lt_irrefl 0 some
  exact ⟨{ turn.orderly with
      inLine := { turn.orderly.inLine with exhausted := fun nonempty => absurd nobody nonempty } },
    turn.known, turn.away, turn.own, turn.posted, turn.awaits, turn.numbered, turn.alone⟩

/-- An asker that finds no slot free gets in line. -/
theorem Turn.getInLine (turn : gate.Turn id asker number)
    (slotless : ∀ exchange ∈ gate.pending, exchange.asker = id → exchange.holdsSlot = false)
    (none : gate.free = 0) (stillOpen : gate.closed = false) :
    ({ gate with line := gate.line ++ [id] }.setStage id (.inLine number)).Orderly [] := by
  have longer : { gate with line := gate.line ++ [id] }.Orderly [id] := by
    refine ⟨turn.orderly.registry, turn.orderly.mail, ⟨?_, fun _ => none, ?_, ?_⟩,
      turn.orderly.ownership, ⟨turn.orderly.closing.told, ?_⟩, turn.orderly.served⟩
    · exact List.nodup_append.mpr ⟨turn.orderly.inLine.nodup, List.pairwise_singleton _ id,
        fun first isFirst last isLast same => turn.away
          (List.mem_singleton.mp isLast ▸ same ▸ isFirst)⟩
    · intro other isMember idle
      exact turn.orderly.inLine.waits other
        ((List.mem_append.mp isMember).resolve_right idle) idle
    · exact fun other current waited known idle stage isOpen => List.mem_append_left _
        (turn.orderly.inLine.stands other current waited known idle stage isOpen)
    · exact fun isClosed => absurd isClosed (by simp [stillOpen])
  refine longer.updateAsker turn.known ({ · with stage := .inLine number }) ?_
  refine ⟨?_, ?_, ?_, ?_, ?_, fun _ => ⟨number, rfl⟩, ?_, ?_⟩
  · intro exchange member isOwn
    obtain ⟨sameNumber, sameQuestion, silent⟩ := turn.own exchange member isOwn
    exact ⟨sameQuestion.symm, silent, by rw [sameNumber]; rfl,
      fun holds => absurd holds (by simp [slotless exchange member isOwn])⟩
  · exact fun exchange member isOwn holds =>
      absurd holds (by simp [slotless exchange member isOwn])
  · exact fun _ _ => turn.awaits
  · intro other waits
    rw [← Option.some_inj.mp waits]
    exact turn.numbered
  · intro other waits position current isCurrent different _
    rw [← Option.some_inj.mp waits]
    exact turn.alone position current isCurrent different
  · exact fun _ _ _ => List.mem_append_right _ (List.mem_singleton_self id)
  · intro waits
    cases waits

/-- Looking for a slot leaves the gate in order. -/
theorem Turn.seekSlot (turn : gate.Turn id asker number)
    (slotless : ∀ exchange ∈ gate.pending, exchange.asker = id → exchange.holdsSlot = false)
    (stillOpen : gate.closed = false) :
    (gate.seekSlot id asker number).Orderly [] ∧
      (gate.seekSlot id asker number).slots + asker.stage.isGranted.toNat = gate.slots := by
  unfold Gate.seekSlot
  split
  · next some =>
    obtain ⟨orderly, counted⟩ := (turn.takeFree some).useSlot slotless
    refine ⟨orderly, counted.trans ?_⟩
    simp only [slots, held, granted]
    omega
  · next none =>
    refine ⟨turn.getInLine slotless (Nat.eq_zero_of_not_pos none) stillOpen, ?_⟩
    have known : { gate with line := gate.line ++ [id] }.askers[id]? = some asker := turn.known
    exact slots_setStage known (.inLine number)

end OperatorDesk.Gate
