/-
This file shows that every move keeps a gate in order and the number of slots, and so does every
run. It also says what the moves leave alone: a turn touches the asker whose turn it is, readers
touch nobody, and the other moves change neither exchanges nor askers unless they are about them.
-/

import OperatorDesk.Proofs.Gate.Destination
import OperatorDesk.Proofs.Gate.Reading
import OperatorDesk.Proofs.Gate.Submission
import Mathlib.Data.List.Induction

namespace OperatorDesk.Gate

variable {gate : Gate} {id : AskerId} {asker : Asker}

/-! ### Runs -/

theorem run_append (gate : Gate) (first second : List Move) :
    gate.run (first ++ second) = (gate.run first).run second :=
  List.foldl_append

theorem run_concat (gate : Gate) (moves : List Move) (move : Move) :
    gate.run (moves ++ [move]) = (gate.run moves).step move :=
  gate.run_append moves [move]

/-- What holds at first and is kept by one more move holds after every run. -/
theorem run_invariant (kept : List Move → Gate → Prop) (gate : Gate) (start : kept [] gate)
    (preserved : ∀ moves move, kept moves (gate.run moves) →
      kept (moves ++ [move]) ((gate.run moves).step move)) (moves : List Move) :
    kept moves (gate.run moves) := by
  induction moves using List.reverseRecOn with
  | nil => exact start
  | append_singleton moves move inductionHypothesis =>
    rw [run_concat]
    exact preserved moves move inductionHypothesis

/-! ### What moves leave alone -/

/-- A turn in which nobody registers touches the asker whose turn it is. -/
theorem touches_poll (gate : Gate) (id : AskerId)
    (turnedAway : ∀ asker, gate.askers[id]? = some asker → ¬gate.admits asker) :
    gate.Touches (gate.poll id) [id] := by
  have isBusy : id ∈ [id] := List.mem_singleton_self id
  have left : gate.Touches (gate.leaveLine id) [id] := touches_of_same _ rfl rfl rfl rfl
  have released := touches_releaseSlot gate [id]
  cases known : gate.askers[id]? with
  | none =>
    simp only [Gate.poll, known]
    exact Touches.refl gate _
  | some asker =>
    cases stage : asker.stage with
    | unheard =>
      have isAway := turnedAway asker known
      simp only [Gate.poll, known, stage, begin_eq]
      split
      · exact touches_setStage gate isBusy _
      split
      · exact touches_setStage gate isBusy _
      next isOpen absent =>
      exact absurd ⟨stage, Bool.eq_false_iff.mpr isOpen, Bool.eq_false_iff.mpr absent⟩ isAway
    | inLine number =>
      simp only [Gate.poll, known, stage]
      split
      · exact left.trans (touches_finishEarly _ isBusy asker number _)
      · split
        · exact left.trans (touches_leave _ isBusy asker number _)
        · exact Touches.refl gate _
    | granted number =>
      simp only [Gate.poll, known, stage]
      split
      · exact released.trans (touches_finishEarly _ isBusy asker number _)
      · split
        · exact released.trans (touches_leave _ isBusy asker number _)
        · exact touches_useSlot gate isBusy asker number
    | listening number =>
      simp only [Gate.poll, known, stage]
      exact touches_listen gate isBusy asker number
    | ended outcome =>
      simp only [Gate.poll, known, stage]
      exact Touches.refl gate _

/-- A turn that registers a question touches, after that, the asker whose turn it is. -/
theorem touches_poll_of_admits (known : gate.askers[id]? = some asker)
    (admitted : gate.admits asker) : (gate.enroll id asker).Touches (gate.poll id) [id] := by
  have isBusy : id ∈ [id] := List.mem_singleton_self id
  obtain ⟨unheard, stillOpen, absent⟩ := admitted
  simp only [Gate.poll, known, unheard, begin_eq, stillOpen, absent, Bool.false_eq_true, if_false]
  split
  · exact touches_finishEarly _ isBusy _ _ _
  · exact touches_seekSlot _ isBusy _ _

/-- A turn registers a question or it does not. -/
theorem poll_cases (gate : Gate) (id : AskerId) :
    (∃ asker, gate.askers[id]? = some asker ∧ gate.admits asker ∧
        (gate.enroll id asker).Touches (gate.poll id) [id]) ∨
      (∀ asker, gate.askers[id]? = some asker → ¬gate.admits asker) ∧
        gate.Touches (gate.poll id) [id] := by
  by_cases first : ∃ asker, gate.askers[id]? = some asker ∧ gate.admits asker
  · obtain ⟨asker, known, admitted⟩ := first
    exact Or.inl ⟨asker, known, admitted, touches_poll_of_admits known admitted⟩
  · have turnedAway : ∀ asker, gate.askers[id]? = some asker → ¬gate.admits asker :=
      fun asker known admitted => first ⟨asker, known, admitted⟩
    exact Or.inr ⟨turnedAway, touches_poll gate id turnedAway⟩

theorem touches_drop (gate : Gate) (id : AskerId) : gate.Touches (gate.drop id) [id] := by
  have isBusy : id ∈ [id] := List.mem_singleton_self id
  have left : gate.Touches (gate.leaveLine id) [id] := touches_of_same _ rfl rfl rfl rfl
  cases known : gate.askers[id]? with
  | none =>
    simp only [Gate.drop, known]
    exact Touches.refl gate _
  | some asker =>
    cases stage : asker.stage with
    | unheard =>
      simp only [Gate.drop, known, stage]
      exact touches_setStage gate isBusy _
    | inLine number =>
      simp only [Gate.drop, known, stage]
      exact left.trans (touches_leave _ isBusy asker number _)
    | granted number =>
      simp only [Gate.drop, known, stage]
      exact (touches_releaseSlot gate _).trans (touches_leave _ isBusy asker number _)
    | listening number =>
      simp only [Gate.drop, known, stage]
      exact touches_leave gate isBusy asker number _
    | ended outcome =>
      simp only [Gate.drop, known, stage]
      exact Touches.refl gate _

/-- A reader touches nobody. -/
theorem touches_reading (gate : Gate) :
    gate.Touches gate.tryNext.1 [] ∧ gate.Touches gate.drain.1 [] ∧
      gate.Touches gate.pollNext.1 [] ∧ gate.Touches gate.pollStream.1 [] := by
  refine kept_reading (fun later => gate.Touches later []) ?_ gate (Touches.refl gate [])
  intro later letter rest _ touches
  have shorter : later.Touches { later with mailbox := rest } [] :=
    touches_of_same [] rfl rfl rfl rfl
  exact (touches.trans shorter).trans (touches_accept _ letter [])

theorem takeSeat_frame (gate : Gate) : ∃ seat, gate.takeSeat.1 = { gate with seat } := by
  unfold Gate.takeSeat
  split
  · exact ⟨.taken, rfl⟩
  · exact ⟨gate.seat, rfl⟩

/-- The closing may take out exchanges and empties the line, and wakes the askers. -/
theorem shutdown_frame (gate : Gate) :
    ∃ free line pending signalled woken, pending.Sublist gate.pending ∧
      gate.shutdown = { gate with free, line, pending, signalled, woken, closed := true } := by
  unfold Gate.shutdown
  split
  · next isClosed =>
    refine ⟨gate.free, gate.line, gate.pending, gate.signalled, gate.woken, ?_, ?_⟩
    · exact List.Sublist.refl _
    · rw [← isClosed]
  · exact ⟨_, [], [], true, _, List.nil_sublist _, rfl⟩

/-! ### Moves keep the order -/

/-- Readers keep the order and the number of slots. -/
theorem Orderly.reading (orderly : gate.Orderly []) :
    (gate.tryNext.1.Orderly [] ∧ gate.tryNext.1.slots = gate.slots) ∧
      (gate.drain.1.Orderly [] ∧ gate.drain.1.slots = gate.slots) ∧
      (gate.pollNext.1.Orderly [] ∧ gate.pollNext.1.slots = gate.slots) ∧
      gate.pollStream.1.Orderly [] ∧ gate.pollStream.1.slots = gate.slots := by
  refine kept_reading (fun later => later.Orderly [] ∧ later.slots = gate.slots) ?_ gate
    ⟨orderly, rfl⟩
  intro later letter rest isMailbox before
  have read := before.1.readLetter isMailbox
  exact ⟨read.1, read.2.trans before.2⟩

theorem askers_ask_of_known (known : gate.askers[id]? = some asker) (context : Context)
    (question : Question) : (gate.ask context question).askers[id]? = some asker := by
  rw [Gate.ask, List.getElem?_append_left (List.getElem?_eq_some_iff.mp known).1]
  exact known

/-- Whoever asks has not run and has no reply. -/
theorem askers_ask_cases {context : Context} {question : Question}
    (known : (gate.ask context question).askers[id]? = some asker) :
    gate.askers[id]? = some asker ∨ asker.stage = .unheard ∧ asker.reply = none := by
  rw [Gate.ask, List.getElem?_append] at known
  split at known
  · exact Or.inl known
  · have isNew := List.mem_singleton.mp (List.mem_of_getElem? known)
    exact Or.inr ⟨by rw [isNew], by rw [isNew]⟩

theorem Orderly.ask (orderly : gate.Orderly []) (context : Context) (question : Question) :
    (gate.ask context question).Orderly [] := by
  have waited : ∀ {other : AskerId} {current : Asker} {number : Nat},
      (gate.ask context question).askers[other]? = some current →
        current.stage.number? = some number → gate.askers[other]? = some current := by
    intro other current number isCurrent waits
    rcases askers_ask_cases isCurrent with before | ⟨unheard, -⟩
    · exact before
    · rw [unheard] at waits
      cases waits
  refine ⟨orderly.registry, orderly.mail, { orderly.inLine with waits := ?_, stands := ?_ },
    ⟨?_, ?_, ?_, ?_, ?_⟩, orderly.closing, orderly.served⟩
  · intro other member idle
    obtain ⟨current, number, isCurrent, stage⟩ := orderly.inLine.waits other member idle
    exact ⟨current, number, askers_ask_of_known isCurrent context question, stage⟩
  · intro other current number isCurrent idle stage
    have before := waited isCurrent (congrArg Stage.number? stage)
    exact orderly.inLine.stands other current number before idle stage
  · intro exchange member idle
    obtain ⟨current, isCurrent, owns⟩ := orderly.ownership.owned exchange member idle
    exact ⟨current, askers_ask_of_known isCurrent context question, owns⟩
  · intro other current number isCurrent idle waits
    have before := waited isCurrent waits
    exact orderly.ownership.awaited other current number before idle waits
  · intro other current number isCurrent idle waits
    have before := waited isCurrent waits
    exact orderly.ownership.numbered other current number before idle waits
  · intro left right first second number isFirst isSecond leftIdle rightIdle firstWaits
      secondWaits
    have leftBefore := waited isFirst firstWaits
    have rightBefore := waited isSecond secondWaits
    exact orderly.ownership.apart left right first second number leftBefore rightBefore leftIdle
      rightIdle firstWaits secondWaits
  · intro other current isCurrent idle unheard
    rcases askers_ask_cases isCurrent with before | ⟨-, silent⟩
    · exact orderly.ownership.unheard other current before idle unheard
    · exact silent

theorem Orderly.takeSeat (orderly : gate.Orderly []) : gate.takeSeat.1.Orderly [] := by
  unfold Gate.takeSeat
  split
  · next untaken =>
    refine { orderly with mail := { orderly.mail with posted := ?_ } }
    exact fun exchange member idle holds _ => orderly.mail.posted exchange member idle holds
      (by rw [untaken]; exact Seat.noConfusion)
  · exact orderly

theorem Orderly.dropSeat (orderly : gate.Orderly []) : gate.dropSeat.Orderly [] := by
  refine { orderly with mail := ⟨List.Pairwise.nil, ?_, ?_, ?_⟩ }
  · exact fun _ member => absurd member List.not_mem_nil
  · exact fun _ member => absurd member List.not_mem_nil
  · exact fun _ _ _ _ readable => absurd rfl readable

/-- The closing takes out all exchanges and empties the line. -/
theorem Orderly.shutdown (orderly : gate.Orderly []) : gate.shutdown.Orderly [] := by
  unfold Gate.shutdown
  split
  · exact orderly
  · refine ⟨⟨List.Pairwise.nil, ?_, List.Pairwise.nil⟩, ⟨orderly.mail.apart, orderly.mail.numbered,
      ?_, ?_⟩, ⟨List.nodup_nil, ?_, ?_, ?_⟩, { orderly.ownership with owned := ?_, awaited := ?_ },
      ⟨rfl, fun _ => ⟨rfl, rfl⟩⟩, orderly.served⟩
    · exact fun _ member => absurd member List.not_mem_nil
    · exact fun _ _ _ member => absurd member List.not_mem_nil
    · exact fun _ member => absurd member List.not_mem_nil
    · exact fun nonempty => absurd rfl nonempty
    · exact fun _ member => absurd member List.not_mem_nil
    · exact fun _ _ _ _ _ _ stillOpen => by cases stillOpen
    · exact fun _ member => absurd member List.not_mem_nil
    · exact fun _ _ _ _ _ _ _ stillOpen => by cases stillOpen

/-- The slots of exchanges become free at the closing. -/
theorem slots_shutdown (gate : Gate) : gate.shutdown.slots = gate.slots := by
  unfold Gate.shutdown
  split
  · rfl
  · simp only [slots, held, granted, List.countP_nil, Nat.add_zero]

theorem Orderly.submit (orderly : gate.Orderly []) (answer : Answer) :
    (gate.submit answer).1.Orderly [] ∧ (gate.submit answer).1.slots = gate.slots := by
  rcases orderly.refused_or_taken answer with ⟨_, same⟩ | ⟨exchange, found, -, same⟩
  · rw [same]
    exact ⟨orderly, rfl⟩
  · obtain ⟨kept, counted, -⟩ := orderly.answered (mem_of_find? found) answer
    rw [same]
    exact ⟨kept, counted⟩

/-- Every move keeps the gate in order and the number of slots. -/
theorem Orderly.step (orderly : gate.Orderly []) (move : Move) :
    (gate.step move).Orderly [] ∧ (gate.step move).slots = gate.slots := by
  cases move with
  | ask context question =>
    refine ⟨orderly.ask context question, ?_⟩
    show gate.free + gate.held + List.countP _ (gate.askers ++ [_]) = _
    rw [List.countP_append]
    rfl
  | poll id => exact orderly.poll id
  | drop id => exact orderly.drop id
  | cancel token => exact ⟨{ orderly with }, rfl⟩
  | dropHandle token => exact ⟨{ orderly with }, rfl⟩
  | elapse duration =>
    exact ⟨{ orderly with served := Nat.le_trans orderly.served (Nat.le_add_right _ _) }, rfl⟩
  | serveTimers => exact ⟨{ orderly with served := Nat.le_refl _ }, rfl⟩
  | setWallClock time => exact ⟨{ orderly with }, rfl⟩
  | submit answer => exact orderly.submit answer
  | takeSeat =>
    obtain ⟨_, same⟩ := takeSeat_frame gate
    refine ⟨orderly.takeSeat, ?_⟩
    rw [Gate.step, same]
    rfl
  | dropSeat => exact ⟨orderly.dropSeat, rfl⟩
  | tryNext => exact orderly.reading.1
  | drain => exact orderly.reading.2.1
  | pollNext => exact orderly.reading.2.2.1
  | pollStream => exact orderly.reading.2.2.2
  | park asleep => exact ⟨{ orderly with }, rfl⟩
  | takeWakes => exact ⟨{ orderly with }, rfl⟩
  | shutdown => exact ⟨orderly.shutdown, slots_shutdown gate⟩

/-- Every run of a gate in order keeps the order and the number of slots. -/
theorem Orderly.run (orderly : gate.Orderly []) (moves : List Move) :
    (gate.run moves).Orderly [] ∧ (gate.run moves).slots = gate.slots :=
  run_invariant (fun _ later => later.Orderly [] ∧ later.slots = gate.slots) gate ⟨orderly, rfl⟩
    (fun _ move kept => ⟨(kept.1.step move).1, (kept.1.step move).2.trans kept.2⟩) moves

/-- Every gate that comes about from a new one is in order. -/
theorem orderly_run (settings : GateSettings) (moves : List Move) :
    ((new settings).run moves).Orderly [] :=
  ((orderly_new settings).run moves).1

theorem slots_run (settings : GateSettings) (moves : List Move) :
    ((new settings).run moves).slots = max settings.capacity 1 :=
  ((orderly_new settings).run moves).2

end OperatorDesk.Gate
