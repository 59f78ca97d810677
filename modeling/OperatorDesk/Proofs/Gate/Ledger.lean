/-
This file keeps a ledger of what was registered and accepted in a run, and shows that the gate
agrees with it throughout. The history is the list of receipts; pending exchanges were registered
and have no receipt; the askers that have a reply are those with a receipt, and an ask that ended
with an answer had it delivered, while one that was withdrawn had none.
-/

import OperatorDesk.Proofs.Gate.Observation

namespace OperatorDesk

namespace Gate

variable {gate : Gate} {id : AskerId} {asker : Asker} {move : Move}
  {registrations : List Registration} {receipts : List Receipt}

/-! ### Exchanges and history -/

/-- The history and the pending exchanges agree with what was registered and accepted. -/
structure Book (gate : Gate) (registrations : List Registration) (receipts : List Receipt) :
    Prop where
  history : gate.history = receipts.map Receipt.record
  numbers : registrations.map (·.exchange.number) = List.range' 1 gate.registered
  pending : (gate.pending.map Exchange.unslotted).Sublist (registrations.map (·.exchange))
  entered : ∀ receipt ∈ receipts, receipt.exchange.unslotted ∈ registrations.map (·.exchange)
  once : (receipts.map (·.exchange.number)).Nodup
  settled : ∀ receipt ∈ receipts, ∀ exchange ∈ gate.pending,
    exchange.number ≠ receipt.exchange.number
  admissible : ∀ receipt ∈ receipts, receipt.exchange.question.refusal? receipt.answer = none ∧
    receipt.answer.questionId = receipt.exchange.question.id

theorem Book.registration_le (book : gate.Book registrations receipts)
    {registration : Registration} (member : registration ∈ registrations) :
    registration.exchange.number ≤ gate.registered := by
  have isNumber : registration.exchange.number ∈ registrations.map (·.exchange.number) :=
    List.mem_map.mpr ⟨registration, member, rfl⟩
  rw [book.numbers, List.mem_range'_1] at isNumber
  omega

/-- What is pending was registered. -/
theorem Book.registration_of_pending (book : gate.Book registrations receipts)
    {exchange : Exchange} (member : exchange ∈ gate.pending) :
    ∃ registration ∈ registrations, registration.exchange = exchange.unslotted :=
  List.mem_map.mp (book.pending.subset (List.mem_map_of_mem member))

theorem Book.number_le (book : gate.Book registrations receipts) {receipt : Receipt}
    (member : receipt ∈ receipts) : receipt.exchange.number ≤ gate.registered := by
  obtain ⟨registration, isRegistration, same⟩ := List.mem_map.mp (book.entered receipt member)
  have bound := book.registration_le isRegistration
  rw [same] at bound
  exact bound

theorem Book.quiet {later : Gate} (book : gate.Book registrations receipts)
    (quiet : gate.Quiet later) : later.Book registrations receipts := by
  refine ⟨quiet.history.trans book.history, by rw [quiet.registered]; exact book.numbers,
    quiet.pending.trans book.pending, book.entered, book.once, ?_, book.admissible⟩
  intro receipt isReceipt exchange member
  obtain ⟨earlier, wasPending, same⟩ :=
    List.mem_map.mp (quiet.pending.subset (List.mem_map_of_mem member))
  have sameNumber : earlier.unslotted.number = exchange.unslotted.number := by rw [same]
  show exchange.unslotted.number ≠ _
  rw [← sameNumber]
  exact book.settled receipt isReceipt earlier wasPending

/-- A registration is entered under the next number. -/
theorem Book.enroll (book : gate.Book registrations receipts) (id : AskerId) (asker : Asker)
    (time : Nat) :
    (gate.enroll id asker).Book
      (registrations ++ [{ exchange := gate.entry id asker.question, time }]) receipts := by
  have entries : (registrations ++ [Registration.mk (gate.entry id asker.question) time]).map
      (·.exchange) = registrations.map (·.exchange) ++ [gate.entry id asker.question] :=
    List.map_append
  refine ⟨book.history, ?_, ?_, ?_, book.once, ?_, book.admissible⟩
  · show _ = List.range' 1 (gate.registered + 1)
    rw [List.map_append, book.numbers, List.range'_1_concat, Nat.add_comm 1]
    rfl
  · show (List.map Exchange.unslotted (gate.pending ++ [_])).Sublist _
    rw [entries, List.map_append]
    exact book.pending.append (List.Sublist.refl _)
  · intro receipt isReceipt
    rw [entries]
    exact List.mem_append_left _ (book.entered receipt isReceipt)
  · intro receipt isReceipt exchange member
    rcases mem_enroll.mp member with before | rfl
    · exact book.settled receipt isReceipt exchange before
    · exact Nat.ne_of_gt (Nat.lt_succ_of_le (book.number_le isReceipt))

/-- An accepted answer is written into the history, and its exchange pends no longer. -/
theorem Book.answered (book : gate.Book registrations receipts) (orderly : gate.Orderly [])
    {exchange : Exchange} {answer : Answer}
    (found : gate.find? answer.questionId = some exchange)
    (admissible : exchange.question.refusal? answer = none) :
    (gate.answered exchange answer).Book registrations
      (receipts ++ [{ exchange, answer, time := gate.wallClock }]) := by
  have member := mem_of_find? found
  obtain ⟨_, _, _, _, same⟩ := answered_frame gate exchange answer
  rw [same]
  refine ⟨?_, book.numbers, (List.filter_sublist.map _).trans book.pending, ?_, ?_, ?_, ?_⟩
  · rw [List.map_append, ← book.history]
    rfl
  · intro receipt isReceipt
    rcases List.mem_append.mp isReceipt with before | isNew
    · exact book.entered receipt before
    · rw [List.mem_singleton.mp isNew]
      exact book.pending.subset (List.mem_map_of_mem member)
  · rw [List.map_append]
    refine List.nodup_append.mpr ⟨book.once, List.pairwise_singleton _ _, ?_⟩
    intro first isFirst last isLast
    obtain ⟨receipt, isReceipt, rfl⟩ := List.mem_map.mp isFirst
    rw [List.mem_singleton.mp isLast]
    exact (book.settled receipt isReceipt exchange member).symm
  · intro receipt isReceipt other isOther
    obtain ⟨isPending, elsewhere⟩ := mem_removePending.mp isOther
    rcases List.mem_append.mp isReceipt with before | isNew
    · exact book.settled receipt before other isPending
    · rw [List.mem_singleton.mp isNew]
      intro sameNumber
      exact elsewhere (congrArg (·.question.id)
        (orderly.registry.eq_of_number isPending member sameNumber))
  · intro receipt isReceipt
    rcases List.mem_append.mp isReceipt with before | isNew
    · exact book.admissible receipt before
    · rw [List.mem_singleton.mp isNew]
      exact ⟨admissible, (id_of_find? found).symm⟩

theorem Book.step (book : gate.Book registrations receipts) (orderly : gate.Orderly [])
    (move : Move) :
    (gate.step move).Book (registrations ++ (gate.registration? move).toList)
      (receipts ++ (gate.receipt? move).toList) := by
  cases orderly.event move with
  | quiet unregistered unanswered quiet =>
    rw [unregistered, unanswered]
    simp only [Option.toList_none, List.append_nil]
    exact book.quiet quiet
  | registers id asker isPoll known admitted quiet =>
    subst isPoll
    have entered := (book.enroll id asker gate.now).quiet quiet
    rw [registration?_of_admits known admitted]
    rwa [← List.append_nil receipts] at entered
  | accepts exchange answer isSubmit found admissible same =>
    subst isSubmit
    have accepted := book.answered orderly found admissible
    rw [receipt?_of_accepted found (congrArg Prod.snd same), Gate.step, same]
    rwa [← List.append_nil registrations] at accepted

/-! ### Replies -/

theorem Passage.question_eq {after : Asker} (passage : Passage gate id asker move after) :
    after.question = asker.question := by
  cases passage with
  | stays => rfl
  | handed => exact congrArg Prod.fst asker.said_handed
  | turned => exact gate.question_prepared asker
  | dropped => rfl
  | answered => rfl

/-- A reply comes with an accepted answer and is never taken back. -/
theorem Passage.reply_eq {after : Asker} (passage : Passage gate id asker move after) :
    after.reply = asker.reply ∨
      ∃ exchange answer, gate.receipt? move = some { exchange, answer, time := gate.wallClock } ∧
        exchange.asker = id ∧ asker.Owns exchange ∧ after.reply = some answer := by
  cases passage with
  | stays => exact Or.inl rfl
  | handed => exact Or.inl (congrArg Prod.snd asker.said_handed)
  | turned => exact Or.inl (gate.reply_prepared asker)
  | dropped => exact Or.inl rfl
  | answered exchange answer found accepted isOwn owns =>
    exact Or.inr ⟨exchange, answer, receipt?_of_accepted found accepted, isOwn, owns, rfl⟩

/-- An ask that ended with an answer had it delivered, and one that was withdrawn had none. -/
structure Consistent (asker : Asker) : Prop where
  heard : ∀ answer, asker.stage = .ended (.answered answer) → asker.reply = some answer
  withdrawn : ∀ failure, asker.stage = .ended (.failed failure) →
    failure.isCancellation = true → asker.reply = none

theorem consistent_of_unended (unended : ∀ outcome, asker.stage ≠ .ended outcome) :
    Consistent asker :=
  ⟨fun _ ended => absurd ended (unended _), fun _ ended => absurd ended (unended _)⟩

theorem Passage.consistent {after : Asker} (passage : Passage gate id asker move after)
    (before : Consistent asker) (past : gate.served ≤ gate.now) : Consistent after := by
  by_cases isEnded : ∃ outcome, asker.stage = .ended outcome
  · obtain ⟨outcome, ended⟩ := isEnded
    rw [passage.eq_of_ended ended]
    exact before
  have unended : ∀ outcome, asker.stage ≠ .ended outcome :=
    fun outcome ended => isEnded ⟨outcome, ended⟩
  cases passage with
  | stays => exact before
  | handed =>
    refine consistent_of_unended fun outcome ended => ?_
    unfold Asker.handed at ended
    split at ended
    · cases ended
    · exact unended outcome ended
  | turned =>
    constructor
    · intro answer ends
      cases verdict_destination past unended ends with
      | answered _ reply => exact (gate.reply_prepared asker).trans reply
    · intro failure ends isCancellation
      cases verdict_destination past unended ends with
      | closed => cases isCancellation
      | duplicate => cases isCancellation
      | withdrawn ending silent => exact (gate.reply_prepared asker).trans silent
  | dropped =>
    constructor
    · intro answer ends
      rw [Asker.stage_abandoned unended] at ends
      cases ends
    · intro failure ends
      rw [Asker.stage_abandoned unended] at ends
      cases ends
  | answered => exact consistent_of_unended unended

/-- The askers agree with what was accepted. -/
structure Replies (gate : Gate) (receipts : List Receipt) : Prop where
  delivered : ∀ receipt ∈ receipts, ∃ asker,
    gate.askers[receipt.exchange.asker]? = some asker ∧ asker.reply = some receipt.answer
  received : ∀ (id : AskerId) asker answer, gate.askers[id]? = some asker →
    asker.reply = some answer → ∃ receipt ∈ receipts, receipt.exchange.asker = id ∧
      receipt.exchange.question = asker.question ∧ receipt.answer = answer
  consistent : ∀ (id : AskerId) asker, gate.askers[id]? = some asker → Consistent asker

theorem Replies.step (replies : gate.Replies receipts) (orderly : gate.Orderly [])
    (move : Move) : (gate.step move).Replies (receipts ++ (gate.receipt? move).toList) := by
  refine ⟨?_, ?_, ?_⟩
  · intro receipt member
    rcases List.mem_append.mp member with old | isNew
    · obtain ⟨asker, known, reply⟩ := replies.delivered receipt old
      obtain ⟨after, isAfter, passage⟩ := orderly.passage known move
      refine ⟨after, isAfter, ?_⟩
      rcases passage.reply_eq with same | ⟨exchange, _, -, -, owns, -⟩
      · exact same.trans reply
      · rw [owns.reply] at reply
        cases reply
    · cases orderly.event move with
      | quiet _ unanswered => rw [unanswered] at isNew; cases isNew
      | registers _ _ isPoll => subst isPoll; cases isNew
      | accepts exchange answer isSubmit found _ same =>
        subst isSubmit
        rw [receipt?_of_accepted found (congrArg Prod.snd same)] at isNew
        rw [List.mem_singleton.mp isNew, Gate.step, same]
        obtain ⟨-, -, asker, -, -, after⟩ := orderly.answered (mem_of_find? found) answer
        exact ⟨_, after, rfl⟩
  · intro id after answer isAfter reply
    rcases orderly.arrival_or_passage isAfter with ⟨_, _, -, -, rfl⟩ | ⟨before, known, passage⟩
    · cases reply
    · rw [passage.question_eq]
      rcases passage.reply_eq with same | ⟨exchange, other, accepted, isOwn, owns, heard⟩
      · obtain ⟨receipt, member, rest⟩ :=
          replies.received id before answer known (same.symm.trans reply)
        exact ⟨receipt, List.mem_append_left _ member, rest⟩
      · rw [heard, Option.some_inj] at reply
        rw [accepted]
        exact ⟨_, List.mem_append_right _ (List.mem_singleton_self _), isOwn, owns.question.symm,
          reply⟩
  · intro id after isAfter
    rcases orderly.arrival_or_passage isAfter with ⟨_, _, -, -, rfl⟩ | ⟨before, known, passage⟩
    · exact consistent_of_unended fun _ ended => by cases ended
    · exact passage.consistent (replies.consistent id before known) orderly.served

/-! ### Contexts -/

/-- An asker that has not run had not run before either. -/
theorem Passage.eq_of_unheard {after : Asker} (passage : Passage gate id asker move after)
    (unheard : after.stage = .unheard) : after = asker := by
  cases passage with
  | stays => rfl
  | handed =>
    refine Asker.handed_of_ne fun number stage => ?_
    rw [Asker.handed_of_inLine stage] at unheard
    cases unheard
  | turned => exact absurd unheard (gate.halt_destination asker).ne_unheard
  | dropped =>
    unfold Asker.abandoned at unheard
    simp only at unheard
    split at unheard <;> cases unheard
  | answered _ _ _ _ _ owns =>
    have waits := owns.number
    rw [show asker.stage = .unheard from unheard] at waits
    cases waits

/-- An asker that waits has waited before in the same context, or has just been registered. -/
theorem Passage.waits {after : Asker} {number : Nat} (passage : Passage gate id asker move after)
    (waits : after.stage.number? = some number) :
    (∃ number, asker.stage.number? = some number) ∧ after.context = asker.context ∨
      move = .poll id ∧ gate.admits asker ∧ after.context = (gate.bounded asker).context := by
  cases passage with
  | stays => exact Or.inl ⟨⟨number, waits⟩, rfl⟩
  | handed =>
    rw [asker.number?_handed] at waits
    refine Or.inl ⟨⟨number, waits⟩, ?_⟩
    unfold Asker.handed
    split <;> rfl
  | turned =>
    by_cases admitted : gate.admits asker
    · exact Or.inr ⟨rfl, admitted, by rw [prepared, if_pos admitted]⟩
    · have unchanged : gate.prepared asker = asker := if_neg admitted
      refine Or.inl ⟨?_, by rw [unchanged]⟩
      simp only at waits
      cases stage : asker.stage with
      | unheard =>
        obtain ⟨failure, ends⟩ := destination_of_turnedAway stage admitted
        rw [ends] at waits
        cases waits
      | inLine number => exact ⟨number, rfl⟩
      | granted number => exact ⟨number, rfl⟩
      | listening number => exact ⟨number, rfl⟩
      | ended outcome =>
        rw [Gate.destination, stage] at waits
        cases waits
  | dropped =>
    unfold Asker.abandoned at waits
    simp only at waits
    split at waits <;> cases waits
  | answered => exact Or.inl ⟨⟨number, waits⟩, rfl⟩

/-- The contexts of the askers stem from those with which they asked: an asker that has not run
has its own, and one that waits has had the default timeout applied when it was registered. Each
asker is registered once at most. -/
structure Origins (gate : Gate) (asks : List (Context × Question))
    (registrations : List Registration) : Prop where
  fresh : ∀ (id : AskerId) asker, gate.askers[id]? = some asker → asker.stage = .unheard →
    asks[id]? = some (asker.context, asker.question)
  bounded : ∀ (id : AskerId) asker number, gate.askers[id]? = some asker →
    asker.stage.number? = some number →
      ∃ context, ∃ registration ∈ registrations, asks[id]? = some (context, asker.question) ∧
        registration.exchange.asker = id ∧
        asker.context = context.orTimeout registration.time gate.settings.defaultTimeout
  begun : ∀ registration ∈ registrations, ∃ asker,
    gate.askers[registration.exchange.asker]? = some asker ∧ asker.stage ≠ .unheard
  apart : (registrations.map (·.exchange.asker)).Nodup

theorem Origins.begun_step {asks : List (Context × Question)}
    (origins : gate.Origins asks registrations) (orderly : gate.Orderly []) (move : Move) :
    ∀ registration ∈ registrations ++ (gate.registration? move).toList, ∃ asker,
      (gate.step move).askers[registration.exchange.asker]? = some asker ∧
        asker.stage ≠ .unheard := by
  intro registration member
  rcases List.mem_append.mp member with old | isNew
  · obtain ⟨asker, known, heard⟩ := origins.begun registration old
    obtain ⟨after, isAfter, passage⟩ := orderly.passage known move
    refine ⟨after, isAfter, fun unheard => heard ?_⟩
    rw [← passage.eq_of_unheard unheard]
    exact unheard
  · obtain ⟨asker, rfl, known, -⟩ := admits_of_registration? (Option.mem_toList.mp isNew)
    exact ⟨_, orderly.askers_poll known, (gate.halt_destination asker).ne_unheard⟩

/-- Who registers has not registered before. -/
theorem Origins.apart_step {asks : List (Context × Question)}
    (origins : gate.Origins asks registrations) (move : Move) :
    ((registrations ++ (gate.registration? move).toList).map (·.exchange.asker)).Nodup := by
  cases registers : gate.registration? move with
  | none =>
    rw [Option.toList_none, List.append_nil]
    exact origins.apart
  | some registration =>
    rw [Option.toList_some, List.map_append]
    refine List.nodup_append.mpr ⟨origins.apart, List.pairwise_singleton _ _, ?_⟩
    intro first isFirst last isLast same
    obtain ⟨earlier, isEarlier, rfl⟩ := List.mem_map.mp isFirst
    obtain ⟨owner, isOwner, heard⟩ := origins.begun earlier isEarlier
    obtain ⟨asker, -, known, admitted⟩ := admits_of_registration? registers
    rw [same, List.mem_singleton.mp isLast, known, Option.some_inj] at isOwner
    rw [← isOwner] at heard
    exact heard admitted.1

theorem Origins.step {asks : List (Context × Question)}
    (origins : gate.Origins asks registrations) (orderly : gate.Orderly [])
    (counted : asks.length = gate.askers.length) (move : Move) :
    (gate.step move).Origins (asks ++ move.asked?.toList)
      (registrations ++ (gate.registration? move).toList) := by
  have settings : (gate.step move).settings = gate.settings := by
    have environment := congrArg Environment.settings (orderly.environment_step move)
    refine environment.trans ?_
    cases move <;> rfl
  have still : ∀ {id : AskerId} {ask : Context × Question}, asks[id]? = some ask →
      (asks ++ move.asked?.toList)[id]? = some ask := by
    intro id ask isAsk
    rw [List.getElem?_append_left (List.getElem?_eq_some_iff.mp isAsk).1]
    exact isAsk
  refine ⟨?_, ?_, origins.begun_step orderly move, origins.apart_step move⟩
  · intro id after isAfter unheard
    rcases orderly.arrival_or_passage isAfter with ⟨context, question, rfl, isLast, rfl⟩ |
      ⟨before, known, passage⟩
    · rw [isLast, ← counted]
      exact List.getElem?_concat_length
    · obtain rfl := passage.eq_of_unheard unheard
      exact still (origins.fresh id after known unheard)
  · intro id after number isAfter waits
    rw [settings]
    rcases orderly.arrival_or_passage isAfter with ⟨_, _, -, -, rfl⟩ | ⟨before, known, passage⟩
    · cases waits
    · rw [passage.question_eq]
      rcases passage.waits waits with ⟨⟨earlier, waited⟩, same⟩ | ⟨rfl, admitted, same⟩
      · obtain ⟨context, registration, member, isAsk, isOwn, bounded⟩ :=
          origins.bounded id before earlier known waited
        exact ⟨context, registration, List.mem_append_left _ member, still isAsk, isOwn,
          same.trans bounded⟩
      · rw [registration?_of_admits known admitted]
        exact ⟨before.context, _, List.mem_append_right _ (List.mem_singleton_self _),
          still (origins.fresh id before known admitted.1), rfl, same⟩

/-! ### The ledger of a run -/

theorem length_asked (settings : GateSettings) (moves : List Move) :
    (asked moves).length = ((new settings).run moves).askers.length := by
  have questions := congrArg List.length (questions_run settings moves)
  rw [List.length_map, List.length_map] at questions
  exact questions.symm

/-- The gate agrees with what was asked, registered and accepted. -/
structure Ledger (gate : Gate) (asks : List (Context × Question))
    (registrations : List Registration) (receipts : List Receipt) : Prop where
  book : gate.Book registrations receipts
  replies : gate.Replies receipts
  origins : gate.Origins asks registrations

theorem ledger_new (settings : GateSettings) : (new settings).Ledger [] [] [] where
  book :=
    { history := rfl
      numbers := rfl
      pending := List.Sublist.refl _
      entered := fun _ member => absurd member List.not_mem_nil
      once := List.nodup_nil
      settled := fun _ member => absurd member List.not_mem_nil
      admissible := fun _ member => absurd member List.not_mem_nil }
  replies :=
    { delivered := fun _ member => absurd member List.not_mem_nil
      received := fun _ _ _ known => by cases known
      consistent := fun _ _ known => by cases known }
  origins :=
    { fresh := fun _ _ known => by cases known
      bounded := fun _ _ _ known => by cases known
      begun := fun _ member => absurd member List.not_mem_nil
      apart := List.nodup_nil }

/-- After every run the gate agrees with the ledger of the run. -/
theorem ledger_run (settings : GateSettings) (moves : List Move) :
    ((new settings).run moves).Ledger (asked moves) ((new settings).registrations moves)
      ((new settings).receipts moves) := by
  refine run_invariant (fun moves gate => gate.Ledger (asked moves)
    ((new settings).registrations moves) ((new settings).receipts moves)) (new settings)
    (ledger_new settings) ?_ moves
  intro moves move ledger
  have orderly := orderly_run settings moves
  have asks : asked (moves ++ [move]) = asked moves ++ move.asked?.toList := by
    rw [asked, List.filterMap_append]
    cases move <;> rfl
  rw [asks, Gate.registrations, Gate.receipts, observed_concat, observed_concat]
  exact ⟨ledger.book.step orderly move, ledger.replies.step orderly move,
    ledger.origins.step orderly (length_asked settings moves) move⟩

end Gate

end OperatorDesk
