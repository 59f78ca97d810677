/-
This file says where a turn takes an asker. The stage after the turn depends on the asker, on
whether the gate is closed, and on what the asker's context says; only the first turn looks at
other askers' questions and at the free slots. A turn changes nothing else about an asker, except
that the first turn applies the default timeout to its context.
-/

import OperatorDesk.Proofs.Gate.Poll

namespace OperatorDesk.Gate

variable {gate : Gate} {id : AskerId} {asker : Asker} {number : Nat}

/-- How an ask ends that waits and whose context has ended. -/
def conclusion (gate : Gate) (asker : Asker) (ending : Ending) : Outcome :=
  match asker.reply with
  | some answer => .answered answer
  | none =>
    if gate.closed then .failed .closed else .failed (failureOf asker.question.id ending)

/-- The stage of an asker after it has listened for a reply. -/
def afterListening (gate : Gate) (asker : Asker) (number : Nat) : Stage :=
  match asker.reply with
  | some answer => .ended (.answered answer)
  | none =>
    if gate.closed then .ended (.failed .closed)
    else
      match asker.context.signal gate.used gate.served with
      | some ending => .ended (.failed (failureOf asker.question.id ending))
      | none => .listening number

/-- The stage of an asker after it was handed a slot. -/
def afterGrant (gate : Gate) (asker : Asker) (number : Nat) : Stage :=
  if asker.reply = none ∧ gate.closed = false ∧ gate.seat = .gone then .ended (.failed .closed)
  else gate.afterListening asker number

/-- It is the asker's first turn, and its question can be registered. -/
def admits (gate : Gate) (asker : Asker) : Prop :=
  asker.stage = .unheard ∧ gate.closed = false ∧ gate.isPending asker.question.id = false

instance (gate : Gate) (asker : Asker) : Decidable (gate.admits asker) :=
  inferInstanceAs (Decidable (_ ∧ _ ∧ _))

/-- The asker with the context under which it goes on from its turn. -/
def prepared (gate : Gate) (asker : Asker) : Asker :=
  if gate.admits asker then gate.bounded asker else asker

/-- The stage of an asker after its turn. -/
def destination (gate : Gate) (asker : Asker) : Stage :=
  match asker.stage with
  | .unheard =>
    if gate.closed then .ended (.failed .closed)
    else if gate.isPending asker.question.id then .ended (.failed (.duplicate asker.question.id))
    else
      match (gate.bounded asker).context.check gate.used gate.now with
      | some ending => .ended (gate.conclusion asker ending)
      | none =>
        if 0 < gate.free then gate.afterGrant (gate.bounded asker) (gate.registered + 1)
        else .inLine (gate.registered + 1)
  | .inLine number =>
    match asker.context.signal gate.used gate.served with
    | some ending => .ended (gate.conclusion asker ending)
    | none => if gate.closed then .ended (.failed .closed) else .inLine number
  | .granted number =>
    match asker.context.signal gate.used gate.served with
    | some ending => .ended (gate.conclusion asker ending)
    | none =>
      if gate.closed then .ended (.failed .closed) else gate.afterGrant asker number
  | .listening number => gate.afterListening asker number
  | .ended outcome => .ended outcome

/-- Where an asker can be when its turn is over. -/
inductive Halt : Stage → Prop where
  | ended (outcome : Outcome) : Halt (.ended outcome)
  | inLine (number : Nat) : Halt (.inLine number)
  | listening (number : Nat) : Halt (.listening number)

theorem Halt.isGranted_eq_false {stage : Stage} (halt : Halt stage) : stage.isGranted = false := by
  cases halt <;> rfl

theorem Halt.ne_unheard {stage : Stage} (halt : Halt stage) : stage ≠ .unheard := by
  cases halt <;> exact Stage.noConfusion

theorem halt_afterListening (gate : Gate) (asker : Asker) (number : Nat) :
    Halt (gate.afterListening asker number) := by
  unfold afterListening
  split
  · exact .ended _
  · split
    · exact .ended _
    · split
      · exact .ended _
      · exact .listening number

theorem halt_afterGrant (gate : Gate) (asker : Asker) (number : Nat) :
    Halt (gate.afterGrant asker number) := by
  unfold afterGrant
  split
  · exact .ended _
  · exact gate.halt_afterListening asker number

/-- A turn ends the ask or leaves the asker in line or listening. -/
theorem halt_destination (gate : Gate) (asker : Asker) : Halt (gate.destination asker) := by
  unfold destination
  cases asker.stage with
  | unheard =>
    simp only
    split
    · exact .ended _
    split
    · exact .ended _
    split
    · exact .ended _
    split
    · exact gate.halt_afterGrant _ _
    · exact .inLine _
  | inLine number =>
    simp only
    split
    · exact .ended _
    · split
      · exact .ended _
      · exact .inLine number
  | granted number =>
    simp only
    split
    · exact .ended _
    · split
      · exact .ended _
      · exact gate.halt_afterGrant asker number
  | listening number => exact gate.halt_afterListening asker number
  | ended outcome => exact .ended outcome

/-- An asker that is turned away on its first turn has ended. -/
theorem destination_of_turnedAway (unheard : asker.stage = .unheard)
    (turnedAway : ¬gate.admits asker) :
    ∃ failure, gate.destination asker = .ended (.failed failure) := by
  unfold destination
  rw [unheard]
  simp only
  split
  · exact ⟨_, rfl⟩
  split
  · exact ⟨_, rfl⟩
  next isOpen absent =>
  exact absurd ⟨unheard, Bool.eq_false_iff.mpr isOpen, Bool.eq_false_iff.mpr absent⟩ turnedAway

/-! ### The ends of a turn -/

/-- The exchange of the asker that has the turn is pending until the asker is answered or the
gate closed. -/
theorem Turn.isCurrent_eq (turn : gate.Turn id asker number) :
    gate.isCurrent asker.question.id number = (asker.reply.isNone && !gate.closed) := by
  cases current : gate.isCurrent asker.question.id number with
  | true =>
    obtain ⟨own, member, isOwn⟩ := turn.own_of_isCurrent current
    have stillOpen : gate.closed = false := by
      refine Bool.eq_false_iff.mpr fun isClosed => ?_
      rw [(turn.orderly.closing.empty isClosed).1] at member
      cases member
    rw [(turn.own own member isOwn).2.2, stillOpen]
    rfl
  | false =>
    cases reply : asker.reply with
    | some answer => rfl
    | none =>
      cases isClosed : gate.closed with
      | true => rfl
      | false =>
        obtain ⟨own, member, isOwn⟩ := turn.awaits reply isClosed
        rw [turn.isCurrent_of_own member isOwn] at current
        cases current

theorem Turn.earlyOutcome_eq (turn : gate.Turn id asker number) (ending : Ending) :
    gate.earlyOutcome asker number ending = gate.conclusion asker ending := by
  unfold earlyOutcome conclusion
  rw [turn.isCurrent_eq]
  cases asker.reply <;> cases gate.closed <;> rfl

theorem Turn.askers_leave (turn : gate.Turn id asker number) (outcome : Outcome) :
    (gate.leave id asker number outcome).askers[id]? =
      some { asker with stage := .ended outcome } := by
  obtain ⟨later, same, -, known, -⟩ := turn.retract
  rw [Gate.leave, same]
  exact askers_updateAsker_self known _

theorem Turn.afterListening_eq (turn : gate.Turn id asker number) :
    gate.afterListening asker number =
      match gate.heard asker number with
      | some outcome => .ended outcome
      | none => .listening number := by
  unfold heard afterListening
  rw [turn.isCurrent_eq]
  cases asker.reply <;> cases gate.closed <;>
    cases asker.context.signal gate.used gate.served <;> rfl

theorem Turn.askers_listen (turn : gate.Turn id asker number) :
    (gate.listen id asker number).askers[id]? =
      some { asker with stage := gate.afterListening asker number } := by
  rw [turn.listen_eq, turn.afterListening_eq]
  cases gate.heard asker number with
  | some outcome => exact turn.askers_leave outcome
  | none => exact askers_updateAsker_self turn.known _

theorem Turn.askers_useSlot (turn : gate.Turn id asker number)
    (slotless : ∀ exchange ∈ gate.pending, exchange.asker = id → exchange.holdsSlot = false) :
    (gate.useSlot id asker number).askers[id]? =
      some { asker with stage := gate.afterGrant asker number } := by
  cases current : gate.isCurrent asker.question.id number with
  | false =>
    have released := turn.releaseSlot.askers_listen
    have stage : gate.afterGrant asker number = gate.releaseSlot.afterListening asker number := by
      obtain ⟨_, _, _, _, same⟩ := releaseSlot_frame gate
      rw [same]
      refine if_neg fun ⟨silent, stillOpen, _⟩ => ?_
      rw [turn.isCurrent_eq, silent, stillOpen] at current
      cases current
    simp only [Gate.useSlot, current, Bool.false_eq_true, if_false]
    rw [stage]
    exact released
  | true =>
    obtain ⟨own, member, isOwn⟩ := turn.own_of_isCurrent current
    have ownSlotless := slotless own member isOwn
    have waits : asker.reply = none ∧ gate.closed = false := by
      rw [turn.isCurrent_eq, Bool.and_eq_true, Option.isNone_iff_eq_none] at current
      exact ⟨current.1, by simpa using current.2⟩
    simp only [Gate.useSlot, current, if_true]
    split
    · next deserted =>
      rw [afterGrant, if_pos ⟨waits.1, waits.2, deserted⟩]
      exact (turn.hold member isOwn ownSlotless deserted).askers_leave _
    · next readable =>
      rw [afterGrant, if_neg fun deserted => readable deserted.2.2]
      have listened := (turn.queue member isOwn ownSlotless).askers_listen
      obtain ⟨woken, posted⟩ :=
        post_frame (gate.markSlot asker.question.id true) number asker.question
      rw [posted] at listened ⊢
      exact listened

theorem Turn.askers_seekSlot (turn : gate.Turn id asker number)
    (slotless : ∀ exchange ∈ gate.pending, exchange.asker = id → exchange.holdsSlot = false) :
    (gate.seekSlot id asker number).askers[id]? =
      some { asker with
        stage := if 0 < gate.free then gate.afterGrant asker number else .inLine number } := by
  unfold Gate.seekSlot
  split
  · next some => exact (turn.takeFree some).askers_useSlot slotless
  · exact askers_updateAsker_self turn.known _

/-! ### Whole turns -/

theorem prepared_of_heard (gate : Gate) (heard : asker.stage ≠ .unheard) :
    gate.prepared asker = asker :=
  if_neg fun admitted => heard admitted.1

/-- What the first turn makes of an asker. -/
theorem Orderly.askers_begin (orderly : gate.Orderly []) (known : gate.askers[id]? = some asker)
    (unheard : asker.stage = .unheard) :
    (gate.begin id asker).askers[id]? =
      some { gate.prepared asker with stage := gate.destination asker } := by
  rw [begin_eq, destination, unheard, prepared]
  split
  · next isClosed =>
    rw [if_neg fun admitted => by simp [admits, isClosed] at admitted]
    exact askers_updateAsker_self known _
  split
  · next isPending =>
    rw [if_neg fun admitted => by simp [admits, isPending] at admitted]
    exact askers_updateAsker_self known _
  next isOpen absent =>
  have stillOpen := Bool.eq_false_iff.mpr isOpen
  have unused := Bool.eq_false_iff.mpr absent
  have turn := orderly.turn_enroll known unheard stillOpen unused
  rw [if_pos ⟨unheard, stillOpen, unused⟩]
  cases (gate.bounded asker).context.check gate.used gate.now with
  | some ending =>
    simp only
    rw [finishEarly_eq_leave, turn.earlyOutcome_eq]
    exact turn.askers_leave _
  | none =>
    simp only
    exact turn.askers_seekSlot (orderly.slotless_enroll known unheard)

/-- What a turn makes of an asker. -/
theorem Orderly.askers_poll (orderly : gate.Orderly []) (known : gate.askers[id]? = some asker) :
    (gate.poll id).askers[id]? =
      some { gate.prepared asker with stage := gate.destination asker } := by
  cases stage : asker.stage with
  | unheard =>
    simp only [Gate.poll, known, stage]
    exact orderly.askers_begin known stage
  | inLine number =>
    have turn := orderly.turn_leaveLine known stage
    rw [gate.prepared_of_heard (by simp [stage])]
    cases hears : asker.context.signal gate.used gate.served with
    | some ending =>
      simp only [Gate.poll, known, stage, destination, hears, finishEarly_eq_leave,
        turn.earlyOutcome_eq]
      exact turn.askers_leave _
    | none =>
      simp only [Gate.poll, known, stage, destination, hears, orderly.closing.told]
      split
      · exact turn.askers_leave _
      · rw [known, ← stage]
  | granted number =>
    have turn := orderly.turn_granted known stage
    have released := turn.releaseSlot
    rw [gate.prepared_of_heard (by simp [stage])]
    cases hears : asker.context.signal gate.used gate.served with
    | some ending =>
      have same : gate.releaseSlot.conclusion asker ending = gate.conclusion asker ending := by
        obtain ⟨_, _, _, _, same⟩ := releaseSlot_frame gate
        rw [same]
        rfl
      simp only [Gate.poll, known, stage, destination, hears, finishEarly_eq_leave,
        released.earlyOutcome_eq, same]
      exact released.askers_leave _
    | none =>
      simp only [Gate.poll, known, stage, destination, hears, orderly.closing.told]
      split
      · exact released.askers_leave _
      · exact turn.askers_useSlot
          (orderly.slotless known fun _ same => by rw [stage] at same; cases same)
  | listening number =>
    rw [gate.prepared_of_heard (by simp [stage])]
    simp only [Gate.poll, known, stage, destination]
    exact (orderly.turn_listening known stage).askers_listen
  | ended outcome =>
    rw [gate.prepared_of_heard (by simp [stage])]
    simp only [Gate.poll, known, stage, destination]
    rw [← stage]

/-- An ask that the agent drops has ended, as it had before or by being dropped. -/
theorem Orderly.askers_drop (orderly : gate.Orderly []) (known : gate.askers[id]? = some asker) :
    (gate.drop id).askers[id]? =
      some { asker with
        stage := match asker.stage with
          | .ended outcome => .ended outcome
          | _ => .ended .dropped } := by
  cases stage : asker.stage with
  | unheard =>
    simp only [Gate.drop, known, stage]
    exact askers_updateAsker_self known _
  | inLine number =>
    simp only [Gate.drop, known, stage]
    exact (orderly.turn_leaveLine known stage).askers_leave .dropped
  | granted number =>
    simp only [Gate.drop, known, stage]
    exact (orderly.turn_granted known stage).releaseSlot.askers_leave .dropped
  | listening number =>
    simp only [Gate.drop, known, stage]
    exact (orderly.turn_listening known stage).askers_leave .dropped
  | ended outcome =>
    simp only [Gate.drop, known, stage]
    rw [← stage]

end OperatorDesk.Gate
