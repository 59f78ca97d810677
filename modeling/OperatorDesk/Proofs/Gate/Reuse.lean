/-
This file says how the exchanges that use an id one after the other are told apart. The exchange
that is pending under an id is the one that was registered last under it, and what reaches a reader
is the question of a registration, as it was registered.
-/

import OperatorDesk.Proofs.Gate.Stream

namespace OperatorDesk.Gate

variable {gate : Gate}

/-- Nothing was registered later under the id of a pending exchange. -/
def Latest (gate : Gate) (registrations : List Registration) : Prop :=
  ∀ exchange ∈ gate.pending, ∀ registration ∈ registrations,
    registration.exchange.question.id = exchange.question.id →
      registration.exchange.number ≤ exchange.number

theorem Latest.quiet {registrations : List Registration} {later : Gate}
    (latest : gate.Latest registrations) (quiet : gate.Quiet later) :
    later.Latest registrations := by
  intro exchange member registration isRegistration sameId
  obtain ⟨earlier, wasPending, same⟩ :=
    List.mem_map.mp (quiet.pending.subset (List.mem_map_of_mem member))
  have question : earlier.unslotted.question = exchange.unslotted.question := by rw [same]
  have number : earlier.unslotted.number = exchange.unslotted.number := by rw [same]
  show _ ≤ exchange.unslotted.number
  rw [← number]
  refine latest earlier wasPending registration isRegistration (sameId.trans ?_)
  exact (congrArg Question.id question).symm

/-- What is registered is the latest under its id, since nothing was pending there. -/
theorem Latest.enroll {registrations : List Registration} {receipts : List Receipt}
    (latest : gate.Latest registrations) (book : gate.Book registrations receipts) {id : AskerId}
    {asker : Asker} (absent : gate.isPending asker.question.id = false) (time : Nat) :
    (gate.enroll id asker).Latest
      (registrations ++ [{ exchange := gate.entry id asker.question, time }]) := by
  intro exchange member registration isRegistration sameId
  rcases mem_enroll.mp member with before | rfl
  · rcases List.mem_append.mp isRegistration with old | isNew
    · exact latest exchange before registration old sameId
    · rw [List.mem_singleton.mp isNew] at sameId
      exact absurd sameId.symm (isPending_eq_false_iff.mp absent exchange before)
  · rcases List.mem_append.mp isRegistration with old | isNew
    · exact Nat.le_succ_of_le (book.registration_le old)
    · have same := List.mem_singleton.mp isNew
      exact Nat.le_of_eq (congrArg (·.exchange.number) same)

theorem latest_run (settings : GateSettings) (moves : List Move) :
    ((new settings).run moves).Latest ((new settings).registrations moves) := by
  refine run_invariant (fun moves gate => gate.Latest ((new settings).registrations moves))
    (new settings) (fun _ member => absurd member List.not_mem_nil) ?_ moves
  intro moves move latest
  have book := (ledger_run settings moves).book
  rw [registrations, observed_concat]
  cases (orderly_run settings moves).event move with
  | quiet unregistered _ quiet =>
    rw [unregistered, Option.toList_none, List.append_nil]
    exact latest.quiet quiet
  | registers id asker isPoll known admitted quiet =>
    subst isPoll
    rw [registration?_of_admits known admitted]
    exact (latest.enroll book admitted.2.2 _).quiet quiet
  | accepts exchange answer isSubmit _ _ same =>
    subst isSubmit
    obtain ⟨_, _, _, _, frame⟩ := answered_frame ((new settings).run moves) exchange answer
    rw [Gate.step, same, frame]
    intro other member registration isRegistration
    have isOld : registration ∈ (new settings).registrations moves :=
      (List.mem_append.mp isRegistration).resolve_right List.not_mem_nil
    exact latest other (mem_removePending.mp member).1 registration isOld

/-- A pending exchange was pending before the latest move, or it is new. -/
theorem Orderly.pending_or_new (orderly : gate.Orderly []) (move : Move) :
    ∀ exchange ∈ (gate.step move).pending,
      (∃ earlier ∈ gate.pending, earlier.unslotted = exchange.unslotted) ∨
        gate.registered < exchange.number := by
  intro exchange member
  cases orderly.event move with
  | quiet _ _ quiet =>
    exact Or.inl (List.mem_map.mp (quiet.pending.subset (List.mem_map_of_mem member)))
  | registers id asker _ known admitted quiet =>
    obtain ⟨earlier, wasPending, same⟩ :=
      List.mem_map.mp (quiet.pending.subset (List.mem_map_of_mem member))
    rcases mem_enroll.mp wasPending with before | rfl
    · exact Or.inl ⟨earlier, before, same⟩
    · have number :
          (gate.entry id asker.question).unslotted.number = exchange.unslotted.number := by
        rw [same]
      refine Or.inr (Nat.lt_of_lt_of_eq (Nat.lt_succ_self _) ?_)
      exact number
  | accepts found answer isSubmit _ _ same =>
    subst isSubmit
    obtain ⟨_, _, _, _, frame⟩ := answered_frame gate found answer
    rw [Gate.step, same, frame] at member
    exact Or.inl ⟨exchange, (mem_removePending.mp member).1, rfl⟩

/-- Each letter that reached a reader says what was registered under its number. -/
theorem registered_of_delivered {settings : GateSettings} {moves : List Move} {letter : Letter}
    (isDelivered : letter ∈ (new settings).deliveries moves) :
    ∃ registration ∈ (new settings).registrations moves,
      registration.exchange.number = letter.number ∧
        registration.exchange.question = letter.question := by
  refine run_invariant (fun moves _ => ∀ letter ∈ (new settings).deliveries moves,
    ∃ registration ∈ (new settings).registrations moves,
      registration.exchange.number = letter.number ∧
        registration.exchange.question = letter.question) (new settings)
    (fun _ member => absurd member List.not_mem_nil) ?_ moves letter isDelivered
  intro moves move before letter member
  rw [deliveries_concat] at member
  rw [registrations, observed_concat]
  rcases List.mem_append.mp member with old | isNew
  · obtain ⟨registration, isRegistration, same⟩ := before letter old
    exact ⟨registration, List.mem_append_left _ isRegistration, same⟩
  · obtain ⟨-, exchange, isPending, sameNumber, sameQuestion⟩ :=
      (orderly_run settings moves).mem_unread_iff.mp (mem_unread_of_yielded isNew)
    obtain ⟨registration, isRegistration, same⟩ :=
      (ledger_run settings moves).book.registration_of_pending isPending
    refine ⟨registration, List.mem_append_left _ isRegistration, ?_, ?_⟩
    · rw [same]
      exact sameNumber
    · rw [same]
      exact sameQuestion

/-- Registrations are told apart by their numbers. -/
theorem registration_eq_of_number {settings : GateSettings} {moves : List Move}
    {left right : Registration} (isLeft : left ∈ (new settings).registrations moves)
    (isRight : right ∈ (new settings).registrations moves)
    (same : left.exchange.number = right.exchange.number) : left = right := by
  have once : (((new settings).registrations moves).map (·.exchange.number)).Nodup := by
    rw [(ledger_run settings moves).book.numbers]
    exact List.nodup_range'
  exact List.inj_on_of_nodup_map once isLeft isRight same

/-- So they are by their askers. -/
theorem registration_eq_of_asker {settings : GateSettings} {moves : List Move}
    {left right : Registration} (isLeft : left ∈ (new settings).registrations moves)
    (isRight : right ∈ (new settings).registrations moves)
    (same : left.exchange.asker = right.exchange.asker) : left = right :=
  List.inj_on_of_nodup_map (ledger_run settings moves).origins.apart isLeft isRight same

section Delivered

variable {settings : GateSettings} {moves : List Move} {exchange : Exchange} {letter : Letter}
  (member : exchange ∈ ((new settings).run moves).pending)
  (isDelivered : letter ∈ (new settings).deliveries moves)
  (sameId : letter.question.id = exchange.question.id)

include member isDelivered sameId

/-- What was delivered under the id of a pending exchange was not registered after it. -/
theorem number_le_of_delivered : letter.number ≤ exchange.number := by
  obtain ⟨registration, isRegistration, sameNumber, sameQuestion⟩ :=
    registered_of_delivered isDelivered
  rw [← sameNumber]
  refine latest_run settings moves exchange member registration isRegistration ?_
  rw [sameQuestion, sameId]

/-- If nothing was registered later under its id, then what was delivered is what is pending. -/
theorem question_eq_of_last (last : ∀ registration ∈ (new settings).registrations moves,
    registration.exchange.question.id = letter.question.id →
      registration.exchange.number ≤ letter.number) : exchange.question = letter.question := by
  obtain ⟨own, isOwn, same⟩ := (ledger_run settings moves).book.registration_of_pending member
  obtain ⟨first, isFirst, sameNumber, sameQuestion⟩ := registered_of_delivered isDelivered
  have ownNumber : own.exchange.number = exchange.number := by rw [same]; rfl
  have ownQuestion : own.exchange.question = exchange.question := by rw [same]; rfl
  have below := number_le_of_delivered member isDelivered sameId
  have above := last own isOwn (by rw [ownQuestion, sameId])
  have equal : first = own := registration_eq_of_number isFirst isOwn (by omega)
  rw [← ownQuestion, ← equal, sameQuestion]

end Delivered

end OperatorDesk.Gate
