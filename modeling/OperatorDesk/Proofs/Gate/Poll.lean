/-
This file follows an asker through a whole turn. Its stage before the turn says with what the
turn begins, and the gate is in order afterwards with as many slots as before. Dropping an ask is
a turn that can only end it.
-/

import OperatorDesk.Proofs.Gate.Turn

namespace OperatorDesk.Gate

variable {gate : Gate} {id : AskerId} {asker : Asker} {number : Nat}

/-! ### The beginning of a turn -/

/-- An asker that waits begins its turn once it stands in no line. -/
private theorem turn_outside {line : List AskerId} (orderly : gate.Orderly [])
    (known : gate.askers[id]? = some asker) (hasNumber : asker.stage.number? = some number)
    (outside : { gate with line }.Orderly [id]) (away : id ∉ line) :
    { gate with line }.Turn id asker number := by
  have idle : ∀ other : AskerId, other ∉ ([] : List AskerId) := fun _ => List.not_mem_nil
  refine ⟨outside, known, away, ?_, ?_, ?_, ?_, ?_⟩
  · intro exchange member isOwn
    have owns := orderly.owns known member isOwn
    exact ⟨Option.some_inj.mp (owns.number.symm.trans hasNumber), owns.question.symm, owns.reply⟩
  · exact fun exchange member _ => orderly.mail.posted exchange member (idle _)
  · exact orderly.ownership.awaited id asker number known (idle _) hasNumber
  · exact orderly.ownership.numbered id asker number known (idle _) hasNumber
  · exact fun other current isCurrent different same => different
      (orderly.ownership.apart other id current asker number isCurrent known (idle _) (idle _)
        same hasNumber)

theorem Orderly.not_mem_line (orderly : gate.Orderly []) (known : gate.askers[id]? = some asker)
    (elsewhere : ∀ number, asker.stage ≠ .inLine number) : id ∉ gate.line := by
  intro member
  obtain ⟨waited, stage⟩ := orderly.stage_of_mem_line known member
  exact elsewhere waited stage

/-- An asker that waits elsewhere than in line begins its turn where it is. -/
theorem Orderly.turn (orderly : gate.Orderly []) (known : gate.askers[id]? = some asker)
    (hasNumber : asker.stage.number? = some number)
    (elsewhere : ∀ number, asker.stage ≠ .inLine number) : gate.Turn id asker number :=
  turn_outside orderly known hasNumber (orderly.busier id)
    (orderly.not_mem_line known elsewhere)

/-- An asker that waits in line leaves it to take its turn. -/
theorem Orderly.turn_leaveLine (orderly : gate.Orderly [])
    (known : gate.askers[id]? = some asker) (stage : asker.stage = .inLine number) :
    (gate.leaveLine id).Turn id asker number := by
  have busy := orderly.busier id
  have hasNumber : asker.stage.number? = some number := by rw [stage]; rfl
  refine turn_outside orderly known hasNumber { busy with inLine := ?_, closing := ?_ }
    fun member => by simp at member
  · refine ⟨busy.inLine.nodup.filter _, ?_, ?_, ?_⟩
    · intro nonempty
      refine busy.inLine.exhausted fun nobody => nonempty ?_
      rw [nobody, List.filter_nil]
    · exact fun other member => busy.inLine.waits other (List.mem_filter.mp member).1
    · intro other current waited isCurrent idle isInLine stillOpen
      have member := busy.inLine.stands other current waited isCurrent idle isInLine stillOpen
      exact List.mem_filter.mpr ⟨member, by simpa using idle⟩
  · refine ⟨busy.closing.told, fun isClosed => ?_⟩
    obtain ⟨noExchange, nobody⟩ := busy.closing.empty isClosed
    exact ⟨noExchange, by rw [nobody, List.filter_nil]⟩

/-- An asker that has not run has nothing at the gate. -/
theorem Orderly.unheard_owns_nothing (orderly : gate.Orderly [])
    (known : gate.askers[id]? = some asker) (unheard : asker.stage = .unheard) :
    ∀ exchange ∈ gate.pending, exchange.asker ≠ id :=
  orderly.owns_nothing known (by rw [unheard]; rfl)

/-- The exchange under which an asker registers. -/
def entry (gate : Gate) (id : AskerId) (question : Question) : Exchange :=
  { number := gate.registered + 1, question, asker := id, holdsSlot := false,
    askedAt := gate.wallClock }

/-- The asker with the default timeout applied. -/
def bounded (gate : Gate) (asker : Asker) : Asker :=
  { asker with context := asker.context.orTimeout gate.now gate.settings.defaultTimeout }

/-- The gate once the asker is registered. -/
def enroll (gate : Gate) (id : AskerId) (asker : Asker) : Gate :=
  (gate.register id asker.question).updateAsker id fun _ => gate.bounded asker

theorem begin_eq (gate : Gate) (id : AskerId) (asker : Asker) :
    gate.begin id asker =
      if gate.closed then gate.conclude id (.failed .closed)
      else if gate.isPending asker.question.id then
        gate.conclude id (.failed (.duplicate asker.question.id))
      else
        match (gate.bounded asker).context.check gate.used gate.now with
        | some ending =>
          (gate.enroll id asker).finishEarly id (gate.bounded asker) (gate.registered + 1) ending
        | none => (gate.enroll id asker).seekSlot id (gate.bounded asker) (gate.registered + 1) :=
  rfl

theorem mem_enroll {exchange : Exchange} :
    exchange ∈ (gate.enroll id asker).pending ↔
      exchange ∈ gate.pending ∨ exchange = gate.entry id asker.question :=
  List.mem_append.trans (or_congr Iff.rfl List.mem_singleton)

/-- The first turn of an asker goes on from its registration. -/
theorem Orderly.turn_enroll (orderly : gate.Orderly [])
    (known : gate.askers[id]? = some asker) (unheard : asker.stage = .unheard)
    (stillOpen : gate.closed = false) (absent : gate.isPending asker.question.id = false) :
    (gate.enroll id asker).Turn id (gate.bounded asker) (gate.registered + 1) := by
  have idle : ∀ other : AskerId, other ∉ ([] : List AskerId) := fun _ => List.not_mem_nil
  have isBusy : id ∈ [id] := List.mem_singleton_self id
  have registered := (orderly.busier id).register isBusy stillOpen absent
  have isEntry : ∀ exchange ∈ (gate.enroll id asker).pending, exchange.asker = id →
      exchange = gate.entry id asker.question := by
    intro exchange member isOwn
    exact (mem_enroll.mp member).resolve_left fun before =>
      orderly.unheard_owns_nothing known unheard exchange before isOwn
  have silent := orderly.ownership.unheard id asker known (idle id) unheard
  refine ⟨registered.updateBusy isBusy _, ?_, ?_, ?_, ?_, ?_, Nat.le_refl _, ?_⟩
  · exact askers_updateAsker_self known _
  · exact orderly.not_mem_line known fun _ stage => by rw [unheard] at stage; cases stage
  · intro exchange member isOwn
    rw [isEntry exchange member isOwn]
    exact ⟨rfl, rfl, silent⟩
  · intro exchange member isOwn holds
    rw [isEntry exchange member isOwn] at holds
    cases holds
  · exact fun _ _ => ⟨gate.entry id asker.question, mem_enroll.mpr (Or.inr rfl), rfl⟩
  · intro other current isCurrent different same
    have before : gate.askers[other]? = some current := by
      rw [enroll, askers_updateAsker_of_ne _ different] at isCurrent
      exact isCurrent
    have bound := orderly.ownership.numbered other current _ before (idle other) same
    omega

/-- An asker that has just been registered holds no slot. -/
theorem Orderly.slotless_enroll (orderly : gate.Orderly [])
    (known : gate.askers[id]? = some asker) (unheard : asker.stage = .unheard) :
    ∀ exchange ∈ (gate.enroll id asker).pending, exchange.asker = id →
      exchange.holdsSlot = false := by
  intro exchange member isOwn
  rcases mem_enroll.mp member with before | rfl
  · exact absurd isOwn (orderly.unheard_owns_nothing known unheard exchange before)
  · rfl

/-! ### Whole turns -/

/-- An asker that has not run can end at once. -/
theorem Orderly.conclude_unheard (orderly : gate.Orderly [])
    (known : gate.askers[id]? = some asker) (unheard : asker.stage = .unheard)
    (outcome : Outcome) :
    (gate.conclude id outcome).Orderly [] ∧ (gate.conclude id outcome).slots = gate.slots := by
  have away : id ∉ gate.line :=
    orderly.not_mem_line known fun _ stage => by rw [unheard] at stage; cases stage
  refine ⟨(orderly.busier id).conclude known away
    (orderly.unheard_owns_nothing known unheard) outcome, ?_⟩
  have counted := slots_setStage known (.ended outcome)
  rw [unheard] at counted
  exact counted

/-- The first turn of an asker leaves the gate in order. -/
theorem Orderly.begin (orderly : gate.Orderly []) (known : gate.askers[id]? = some asker)
    (unheard : asker.stage = .unheard) :
    (gate.begin id asker).Orderly [] ∧ (gate.begin id asker).slots = gate.slots := by
  rw [begin_eq]
  split
  · exact orderly.conclude_unheard known unheard _
  split
  · exact orderly.conclude_unheard known unheard _
  next isOpen absent =>
  have stillOpen := Bool.eq_false_iff.mpr isOpen
  have turn := orderly.turn_enroll known unheard stillOpen (Bool.eq_false_iff.mpr absent)
  have notGranted : (gate.bounded asker).stage.isGranted = false := by
    show asker.stage.isGranted = false
    rw [unheard]
    rfl
  have counted : (gate.enroll id asker).slots = gate.slots := by
    have isRegistered : (gate.register id asker.question).askers[id]? = some asker := known
    rw [← slots_register gate id asker.question]
    exact Nat.add_right_cancel (slots_updateAsker isRegistered fun _ => gate.bounded asker)
  split
  · rw [finishEarly_eq_leave]
    obtain ⟨kept, left⟩ := turn.leave _
    rw [notGranted] at left
    exact ⟨kept, left.trans counted⟩
  · obtain ⟨kept, sought⟩ := turn.seekSlot (orderly.slotless_enroll known unheard) stillOpen
    rw [notGranted] at sought
    exact ⟨kept, sought.trans counted⟩

/-- The exchange of an asker that does not listen yet holds no slot. -/
theorem Orderly.slotless (orderly : gate.Orderly []) (known : gate.askers[id]? = some asker)
    (elsewhere : ∀ number, asker.stage ≠ .listening number) :
    ∀ exchange ∈ gate.pending, exchange.asker = id → exchange.holdsSlot = false := by
  intro exchange member isOwn
  have owns := orderly.owns known member isOwn
  exact Bool.eq_false_iff.mpr fun holds => elsewhere exchange.number (owns.slot holds)

/-- The turn of an asker that was handed a slot begins with the slot in its hand. -/
theorem Orderly.turn_granted (orderly : gate.Orderly []) (known : gate.askers[id]? = some asker)
    (stage : asker.stage = .granted number) : gate.Turn id asker number :=
  orderly.turn known (by rw [stage]; rfl) fun _ same => by rw [stage] at same; cases same

theorem Orderly.turn_listening (orderly : gate.Orderly [])
    (known : gate.askers[id]? = some asker) (stage : asker.stage = .listening number) :
    gate.Turn id asker number :=
  orderly.turn known (by rw [stage]; rfl) fun _ same => by rw [stage] at same; cases same

/-- An asker that was handed a slot can give it back and end. -/
theorem Orderly.release_leave (orderly : gate.Orderly [])
    (known : gate.askers[id]? = some asker) (stage : asker.stage = .granted number)
    (outcome : Outcome) :
    (gate.releaseSlot.leave id asker number outcome).Orderly [] ∧
      (gate.releaseSlot.leave id asker number outcome).slots = gate.slots := by
  have turn := orderly.turn_granted known stage
  obtain ⟨kept, left⟩ := turn.releaseSlot.leave outcome
  rw [turn.orderly.slots_releaseSlot turn.only_away, stage] at left
  exact ⟨kept, Nat.add_right_cancel left⟩

theorem Orderly.leaveLine_leave (orderly : gate.Orderly [])
    (known : gate.askers[id]? = some asker) (stage : asker.stage = .inLine number)
    (outcome : Outcome) :
    ((gate.leaveLine id).leave id asker number outcome).Orderly [] ∧
      ((gate.leaveLine id).leave id asker number outcome).slots = gate.slots := by
  obtain ⟨kept, left⟩ := (orderly.turn_leaveLine known stage).leave outcome
  rw [stage] at left
  exact ⟨kept, left⟩

/-- A turn leaves the gate in order with as many slots as before. -/
theorem Orderly.poll (orderly : gate.Orderly []) (id : AskerId) :
    (gate.poll id).Orderly [] ∧ (gate.poll id).slots = gate.slots := by
  cases known : gate.askers[id]? with
  | none =>
    have same : gate.poll id = gate := by simp only [Gate.poll, known]
    rw [same]
    exact ⟨orderly, rfl⟩
  | some asker =>
    cases stage : asker.stage with
    | unheard =>
      simp only [Gate.poll, known, stage]
      exact orderly.begin known stage
    | inLine number =>
      simp only [Gate.poll, known, stage, finishEarly_eq_leave]
      split
      · exact orderly.leaveLine_leave known stage _
      · split
        · exact orderly.leaveLine_leave known stage _
        · exact ⟨orderly, rfl⟩
    | granted number =>
      simp only [Gate.poll, known, stage, finishEarly_eq_leave]
      split
      · exact orderly.release_leave known stage _
      · split
        · exact orderly.release_leave known stage _
        · obtain ⟨kept, used⟩ := (orderly.turn_granted known stage).useSlot
            (orderly.slotless known fun _ same => by rw [stage] at same; cases same)
          rw [stage] at used
          exact ⟨kept, Nat.add_right_cancel used⟩
    | listening number =>
      simp only [Gate.poll, known, stage]
      obtain ⟨kept, listened⟩ := (orderly.turn_listening known stage).listen
      rw [stage] at listened
      exact ⟨kept, listened⟩
    | ended outcome =>
      have same : gate.poll id = gate := by simp only [Gate.poll, known, stage]
      rw [same]
      exact ⟨orderly, rfl⟩

/-- Dropping an ask leaves the gate in order with as many slots as before. -/
theorem Orderly.drop (orderly : gate.Orderly []) (id : AskerId) :
    (gate.drop id).Orderly [] ∧ (gate.drop id).slots = gate.slots := by
  cases known : gate.askers[id]? with
  | none =>
    have same : gate.drop id = gate := by simp only [Gate.drop, known]
    rw [same]
    exact ⟨orderly, rfl⟩
  | some asker =>
    cases stage : asker.stage with
    | unheard =>
      simp only [Gate.drop, known, stage]
      exact orderly.conclude_unheard known stage .dropped
    | inLine number =>
      simp only [Gate.drop, known, stage]
      exact orderly.leaveLine_leave known stage .dropped
    | granted number =>
      simp only [Gate.drop, known, stage]
      exact orderly.release_leave known stage .dropped
    | listening number =>
      simp only [Gate.drop, known, stage]
      obtain ⟨kept, left⟩ := (orderly.turn_listening known stage).leave .dropped
      rw [stage] at left
      exact ⟨kept, left⟩
    | ended outcome =>
      have same : gate.drop id = gate := by simp only [Gate.drop, known, stage]
      rw [same]
      exact ⟨orderly, rfl⟩

end OperatorDesk.Gate
