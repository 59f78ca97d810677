/-
This file shows that numbers stand for registrations. They are given out one after the other, and
whatever bears a number, a pending exchange or a letter, bears that of the registration it stems
from. So the table of what is pending, in whatever order it is gone through, is listed in exactly
one way: it yields the questions that were registered and whose exchanges have not ended, each
once, in the order of registration.
-/

import OperatorDesk.Proofs.Gate.Overtaking
import OperatorDesk.Proofs.Gate.Succession
import Mathlib.Data.List.Sort

namespace OperatorDesk

/-- The ask has come to its end. -/
def Stage.isEnded : Stage → Bool
  | .ended _ => true
  | _ => false

/-- What the letter of an exchange says. -/
def Exchange.letter (exchange : Exchange) : Letter :=
  { number := exchange.number, question := exchange.question }

namespace Gate

variable {gate : Gate} {settings : GateSettings} {moves : List Move} {id : AskerId}
  {asker : Asker} {letter : Letter} {registration : Registration}
  {registrations : List Registration}

/-! ### What bears a number -/

/-- The letter was put into the mailbox by the turn of an asker. -/
def PostedBy (gate : Gate) (moves : List Move) (id : AskerId) (letter : Letter) : Prop :=
  ∃ early late, moves = early ++ .poll id :: late ∧
    (gate.run early).posted? (.poll id) = some letter

/-- What is pending or in the mailbox after a run, with the asker that it stems from. -/
inductive Circulates (gate : Gate) (moves : List Move) : AskerId → Letter → Prop where
  | pending (exchange : Exchange) (member : exchange ∈ (gate.run moves).pending) :
    Circulates gate moves exchange.asker exchange.letter
  | mailed (id : AskerId) (letter : Letter) (isLetter : letter ∈ (gate.run moves).mailbox)
    (posted : gate.PostedBy moves id letter) : Circulates gate moves id letter

/-- An asker that looks for a slot, or has one in hand, does so under the number of its
registration. -/
def Enrolled (gate : Gate) (registrations : List Registration) : Prop :=
  ∀ (id : AskerId) asker number, gate.askers[id]? = some asker →
    asker.stage.seeking? = some number → ∃ registration ∈ registrations,
      registration.exchange.asker = id ∧
        registration.exchange.letter = { number, question := asker.question }

/-- A number that has not been given out yet is given out by registering. -/
theorem Orderly.admits_of_new_number (orderly : gate.Orderly [])
    (known : gate.askers[id]? = some asker) {after : Asker} {number : Nat}
    (isAfter : (gate.poll id).askers[id]? = some after)
    (seeks : after.stage.seeking? = some number) (isNew : gate.registered < number) :
    gate.admits asker := by
  have bound : number ≤ (gate.poll id).registered :=
    (orderly.poll id).1.ownership.numbered id after number isAfter List.not_mem_nil
      (Stage.number?_of_seeking seeks)
  cases orderly.event (.poll id) with
  | quiet _ _ quiet =>
    have same : (gate.poll id).registered = gate.registered := quiet.registered
    omega
  | registers poster current isPoll isKnown admitted =>
    obtain rfl := Move.poll.inj isPoll
    rwa [Option.some_inj.mp (known.symm.trans isKnown)]
  | accepts _ _ isSubmit => cases isSubmit

theorem Enrolled.step (enrolled : gate.Enrolled registrations) (orderly : gate.Orderly [])
    (move : Move) :
    (gate.step move).Enrolled (registrations ++ (gate.registration? move).toList) := by
  intro id after number isAfter seeks
  rcases orderly.arrival_or_passage isAfter with ⟨_, _, -, -, rfl⟩ | ⟨before, known, passage⟩
  · cases seeks
  rw [passage.question_eq]
  rcases passage.seeking seeks with sought | ⟨rfl, rfl⟩
  · obtain ⟨registration, member, rest⟩ := enrolled id before number known sought
    exact ⟨registration, List.mem_append_left _ member, rest⟩
  · -- The number has just been given out, so it is this turn that registers.
    have admitted := orderly.admits_of_new_number known isAfter seeks (Nat.lt_succ_self _)
    rw [registration?_of_admits known admitted]
    exact ⟨_, List.mem_append_right _ (List.mem_singleton_self _), rfl, rfl⟩

theorem enrolled_run (settings : GateSettings) (moves : List Move) :
    ((new settings).run moves).Enrolled ((new settings).registrations moves) := by
  refine run_invariant (fun moves gate => gate.Enrolled ((new settings).registrations moves))
    (new settings) (fun _ _ _ known => by cases known) ?_ moves
  intro moves move enrolled
  rw [Gate.registrations, observed_concat]
  exact enrolled.step (orderly_run settings moves) move

/-- What an asker posts is what it has registered, at the latest in the same turn. -/
theorem registration_of_postedBy (posted : (new settings).PostedBy moves id letter) :
    ∃ registration ∈ (new settings).registrations moves,
      registration.exchange.asker = id ∧ registration.exchange.letter = letter := by
  obtain ⟨early, late, rfl, posts⟩ := posted
  obtain ⟨letters, posting, isPosted⟩ := posts_poll ((new settings).run early) id
  have isLetter := posted?_poll posting isPosted
  rw [posts] at isLetter
  cases posting with
  | nothing => cases isLetter
  | letter asker number known numbered arrived =>
    obtain rfl := (List.cons.inj isLetter).1
    rcases numbered with granted | ⟨admitted, rfl⟩
    · obtain ⟨registration, registers, rest⟩ :=
        enrolled_run settings early id asker number known (by rw [granted]; rfl)
      exact ⟨registration, mem_registrations_append registers _, rest⟩
    · rw [Gate.registrations, observed_append, observed, registration?_of_admits known admitted]
      exact ⟨_, List.mem_append_right _ List.mem_cons_self, rfl, rfl⟩

theorem postedBy_of_mem_mailbox (isLetter : letter ∈ ((new settings).run moves).mailbox) :
    ∃ id, (new settings).PostedBy moves id letter := by
  obtain ⟨passed, posted, -⟩ := (mailed_run settings moves).mailbox
  have isPosted : letter ∈ (new settings).postings moves := by
    rw [posted]
    exact List.mem_append_right passed isLetter
  obtain ⟨early, move, late, rfl, posts⟩ := mem_observed _ isPosted
  obtain ⟨id, -, rfl, -⟩ := origin_of_posted? posts
  exact ⟨id, early, late, rfl, posts⟩

/-- What bears a number stands for the registration of the asker that it stems from. -/
theorem registration_of_circulates (circulates : (new settings).Circulates moves id letter) :
    ∃ registration ∈ (new settings).registrations moves,
      registration.exchange.asker = id ∧ registration.exchange.letter = letter := by
  cases circulates with
  | pending exchange member =>
    obtain ⟨registration, registers, same⟩ :=
      (ledger_run settings moves).book.registration_of_pending member
    exact ⟨registration, registers, by rw [same]; rfl, by rw [same]; rfl⟩
  | mailed id letter _ posted => exact registration_of_postedBy posted

theorem number_eq_iff_of_circulates {left right : AskerId} {first second : Letter}
    (isFirst : (new settings).Circulates moves left first)
    (isSecond : (new settings).Circulates moves right second) :
    first.number = second.number ↔ left = right := by
  obtain ⟨early, isEarly, rfl, rfl⟩ := registration_of_circulates isFirst
  obtain ⟨late, isLate, rfl, rfl⟩ := registration_of_circulates isSecond
  constructor
  · intro same
    rw [registration_eq_of_number isEarly isLate same]
  · intro same
    rw [registration_eq_of_asker isEarly isLate same]

/-! ### Which exchanges have ended -/

/-- The exchange of a registration has ended after a run: an answer to it was accepted, its asker
has come to an end, or the gate was shut down. -/
def hasEnded (gate : Gate) (moves : List Move) (registration : Registration) : Bool :=
  (gate.run moves).closed ||
    (gate.receipts moves).any (·.exchange.number == registration.exchange.number) ||
    ((gate.run moves).stage? registration.exchange.asker).any Stage.isEnded

theorem hasEnded_eq_false_iff {gate : Gate} :
    gate.hasEnded moves registration = false ↔ (gate.run moves).closed = false ∧
      (∀ receipt ∈ gate.receipts moves,
        receipt.exchange.number ≠ registration.exchange.number) ∧
      ∀ outcome, (gate.run moves).stage? registration.exchange.asker ≠ some (.ended outcome) := by
  have unended : ∀ stage : Option Stage,
      stage.any Stage.isEnded = false ↔ ∀ outcome, stage ≠ some (.ended outcome) := by
    intro stage
    rcases stage with _ | stage
    · simp
    · cases stage <;> simp [Stage.isEnded]
  simp only [hasEnded, Bool.or_eq_false_iff, List.any_eq_false, beq_iff_eq, unended, and_assoc]

/-- An exchange that is pending has not ended. -/
theorem hasEnded_eq_false_of_pending {exchange : Exchange}
    (member : exchange ∈ ((new settings).run moves).pending)
    (same : exchange.unslotted = registration.exchange) :
    (new settings).hasEnded moves registration = false := by
  have orderly := orderly_run settings moves
  obtain ⟨owner, known, owns⟩ := orderly.ownership.owned exchange member List.not_mem_nil
  rw [hasEnded_eq_false_iff, ← same]
  refine ⟨Bool.eq_false_iff.mpr fun isClosed => ?_, fun receipt isReceipt => ?_,
    fun outcome ended => ?_⟩
  · rw [(orderly.closing.empty isClosed).1] at member
    cases member
  · exact ((ledger_run settings moves).book.settled receipt isReceipt exchange member).symm
  · rw [stage?, Exchange.unslotted, known, Option.map_some, Option.some_inj] at ended
    have waits := owns.number
    rw [ended] at waits
    cases waits

section Registered

variable (registers : registration ∈ (new settings).registrations moves)

include registers

/-- A reply comes with an accepted answer to what its asker has registered. -/
theorem reply_eq_none_of_unanswered
    (known : ((new settings).run moves).askers[registration.exchange.asker]? = some asker)
    (unanswered : ∀ receipt ∈ (new settings).receipts moves,
      receipt.exchange.number ≠ registration.exchange.number) : asker.reply = none := by
  obtain ⟨book, replies, -⟩ := ledger_run settings moves
  refine Option.eq_none_iff_forall_ne_some.mpr fun answer reply => ?_
  obtain ⟨receipt, isReceipt, isOwn, -⟩ := replies.received _ asker answer known reply
  obtain ⟨other, isOther, same⟩ := List.mem_map.mp (book.entered receipt isReceipt)
  have equal := registration_eq_of_asker isOther registers (by rw [same]; exact isOwn)
  refine unanswered receipt isReceipt ?_
  rw [← equal, same]
  rfl

/-- An exchange that has not ended is pending, since its asker still waits for a reply. -/
theorem pending_of_not_hasEnded (unended : (new settings).hasEnded moves registration = false) :
    ∃ exchange ∈ ((new settings).run moves).pending,
      exchange.unslotted = registration.exchange := by
  obtain ⟨book, -, origins⟩ := ledger_run settings moves
  obtain ⟨isOpen, unanswered, goesOn⟩ := hasEnded_eq_false_iff.mp unended
  obtain ⟨owner, known, heard⟩ := origins.begun registration registers
  obtain ⟨number, waits⟩ := Stage.exists_number heard fun outcome ended =>
    goesOn outcome (by rw [stage?, known, Option.map_some, ended])
  have silent := reply_eq_none_of_unanswered registers known unanswered
  obtain ⟨exchange, member, isOwn⟩ := (orderly_run settings moves).ownership.awaited _ owner number
    known List.not_mem_nil waits silent isOpen
  obtain ⟨other, isOther, same⟩ := book.registration_of_pending member
  refine ⟨exchange, member, ?_⟩
  rw [← registration_eq_of_asker isOther registers (by rw [same]; exact isOwn), same]

end Registered

/-! ### The list of what is pending -/

/-- What is found under an id is what is pending under it. -/
theorem DistinctIds.find?_eq_some_iff (distinct : gate.DistinctIds) {questionId : String}
    {exchange : Exchange} :
    gate.find? questionId = some exchange ↔
      exchange ∈ gate.pending ∧ exchange.question.id = questionId := by
  constructor
  · exact fun found => ⟨mem_of_find? found, id_of_find? found⟩
  · rintro ⟨member, rfl⟩
    exact distinct.find?_of_mem member

section Perm

variable {order : List Exchange} (sameEntries : order.Perm gate.pending)

include sameEntries

/-- What is found does not depend on the order in which the table is gone through. -/
theorem Orderly.find?_perm (orderly : gate.Orderly []) (questionId : String) :
    { gate with pending := order }.find? questionId = gate.find? questionId := by
  have distinct : { gate with pending := order }.DistinctIds :=
    (sameEntries.pairwise_iff fun {_ _} different => different.symm).mpr orderly.distinctIds
  refine Option.ext fun exchange => ?_
  rw [distinct.find?_eq_some_iff, orderly.distinctIds.find?_eq_some_iff]
  exact and_congr_left' sameEntries.mem_iff

/-- Nor does the list. -/
theorem Orderly.pendingQuestions_perm (orderly : gate.Orderly []) :
    { gate with pending := order }.pendingQuestions = gate.pendingQuestions := by
  rw [orderly.pendingQuestions_eq]
  refine congrArg (List.map Exchange.question) ?_
  show order.mergeSort (fun left right => decide (left.number ≤ right.number)) = gate.pending
  have sorted : (order.mergeSort fun left right => decide (left.number ≤ right.number)).Pairwise
      fun left right => left.number ≤ right.number := by
    refine (List.pairwise_mergeSort ?_ ?_ order).imp of_decide_eq_true
    · exact fun _ _ _ less more =>
        decide_eq_true (Nat.le_trans (of_decide_eq_true less) (of_decide_eq_true more))
    · exact fun left right => by simpa using Nat.le_total left.number right.number
  have sameMembers := (List.mergeSort_perm order fun left right =>
    decide (left.number ≤ right.number)).trans sameEntries
  refine List.Perm.eq_of_pairwise ?_ sorted (orderly.registry.increasing.imp Nat.le_of_lt)
    sameMembers
  exact fun left right isLeft isRight less more =>
    orderly.registry.eq_of_number (sameMembers.subset isLeft) isRight (Nat.le_antisymm less more)

end Perm

/-- What is pending, but for the slots, are the registrations whose exchanges have not ended. -/
theorem pending_run (settings : GateSettings) (moves : List Move) :
    ((new settings).run moves).pending.map Exchange.unslotted =
      (((new settings).registrations moves).filter fun registration =>
        !(new settings).hasEnded moves registration).map (·.exchange) := by
  have antisymmetric : Std.Antisymm fun left right : Exchange => left.number < right.number :=
    ⟨fun _ _ less more => absurd more (Nat.lt_asymm less)⟩
  have irreflexive : Std.Irrefl fun left right : Exchange => left.number < right.number :=
    ⟨fun _ => Nat.lt_irrefl _⟩
  have increasing : (((new settings).registrations moves).map (·.exchange)).Pairwise
      fun left right => left.number < right.number := by
    have numbers := (ledger_run settings moves).book.numbers
    rw [List.pairwise_map]
    refine List.pairwise_map.mp ?_
    rw [numbers]
    exact List.pairwise_lt_range'
  have pending : (((new settings).run moves).pending.map Exchange.unslotted).Pairwise
      fun left right => left.number < right.number :=
    List.pairwise_map.mpr (orderly_run settings moves).registry.increasing
  refine pending.eq_of_mem_iff (increasing.sublist (List.filter_sublist.map _)) fun entry => ?_
  simp only [List.mem_map, List.mem_filter, Bool.not_eq_true']
  constructor
  · rintro ⟨exchange, member, rfl⟩
    obtain ⟨registration, registers, same⟩ :=
      (ledger_run settings moves).book.registration_of_pending member
    exact ⟨registration, ⟨registers, hasEnded_eq_false_of_pending member same.symm⟩, same⟩
  · rintro ⟨registration, ⟨registers, unended⟩, rfl⟩
    exact pending_of_not_hasEnded registers unended

theorem Orderly.isPending_iff (orderly : gate.Orderly []) (questionId : String) :
    gate.isPending questionId = true ↔
      ∃ question ∈ gate.pendingQuestions, question.id = questionId := by
  rw [orderly.pendingQuestions_eq, isPending]
  simp only [List.any_eq_true, beq_iff_eq, List.mem_map, exists_exists_and_eq_and]

/-- The registrations of a run are numbered from one, as many as the gate has counted. An exchange
is found under the id of its question and no other. All that is pending or in the mailbox bears the
number of the registration that it stems from, so that what stems from different registrations bears
different numbers. And the list of what is pending, however the table is gone through, consists of
the registered questions whose exchanges have not ended, in the order of registration; the count and
the look-up by id agree with it. -/
theorem pending_in_order_of_registration (settings : GateSettings) (moves : List Move)
    {gate : Gate} (reached : (new settings).run moves = gate) :
    (((new settings).registrations moves).map (·.exchange.number) =
          List.range' 1 gate.registered ∧
        ((new settings).registrations moves).length = gate.registered) ∧
      (∀ questionId exchange, gate.find? questionId = some exchange ↔
        exchange ∈ gate.pending ∧ exchange.question.id = questionId) ∧
      ((∀ letter ∈ gate.mailbox, ∃ id, (new settings).PostedBy moves id letter) ∧
        (∀ id letter, (new settings).Circulates moves id letter →
          letter.number ≤ gate.registered ∧
            ∃ registration ∈ (new settings).registrations moves,
              registration.exchange.asker = id ∧ registration.exchange.letter = letter) ∧
        (∀ left right first second, (new settings).Circulates moves left first →
          (new settings).Circulates moves right second →
            (first.number = second.number ↔ left = right)) ∧
        (gate.pending.map Exchange.number).Nodup ∧ (gate.mailbox.map Letter.number).Nodup) ∧
      gate.pendingQuestions = (((new settings).registrations moves).filter fun registration =>
        !(new settings).hasEnded moves registration).map (·.exchange.question) ∧
      (∀ order : List Exchange, order.Perm gate.pending →
        { gate with pending := order }.pendingQuestions = gate.pendingQuestions ∧
          ∀ questionId,
            { gate with pending := order }.find? questionId = gate.find? questionId) ∧
      gate.pendingCount = gate.pendingQuestions.length ∧
      ∀ questionId, gate.isPending questionId = true ↔
        ∃ question ∈ gate.pendingQuestions, question.id = questionId := by
  have pending := pending_run settings moves
  have orderly := orderly_run settings moves
  have book := (ledger_run settings moves).book
  rw [reached] at pending orderly book
  refine ⟨⟨book.numbers, ?_⟩, fun _ _ => orderly.distinctIds.find?_eq_some_iff,
    ⟨?_, ?_, ?_, ?_, ?_⟩, ?_, ?_, ?_, orderly.isPending_iff⟩
  · have counted := congrArg List.length book.numbers
    rwa [List.length_map, List.length_range'] at counted
  · subst reached
    exact fun letter isLetter => postedBy_of_mem_mailbox isLetter
  · intro id letter circulates
    obtain ⟨registration, registers, isOwn, rfl⟩ := registration_of_circulates circulates
    exact ⟨book.registration_le registers, registration, registers, isOwn, rfl⟩
  · exact fun left right first second => number_eq_iff_of_circulates
  · exact List.pairwise_map.mpr (orderly.registry.increasing.imp Nat.ne_of_lt)
  · exact List.pairwise_map.mpr orderly.mail.apart
  · have questions := congrArg (List.map Exchange.question) pending
    rw [List.map_map, List.map_map] at questions
    exact orderly.pendingQuestions_eq.trans questions
  · exact fun order sameEntries =>
      ⟨orderly.pendingQuestions_perm sameEntries, orderly.find?_perm sameEntries⟩
  · rw [orderly.pendingQuestions_eq, List.length_map]
    rfl

/-- The first of two askers goes, and a third one asks under its id before anybody reads. -/
def succeeding : List Move :=
  crowding ++ [.drop 0, .ask .background (.plain "Q-1" "Which day?"), .poll 2]

/-- Three letters are in the mailbox, of which the first stands for the exchange that has ended.
Gone through the other way round, the table is still listed in the order of registration. -/
theorem pending_in_order_of_registration_succeeding :
    ∃ gate, (new { capacity := 2, defaultTimeout := none }).run succeeding = gate ∧
      gate.mailbox.map Letter.number = [1, 2, 3] ∧
      gate.pending.reverse.map Exchange.number = [3, 2] ∧
      { gate with pending := gate.pending.reverse }.pendingQuestions =
        [.plain "Q-2" "Which name?", .plain "Q-1" "Which day?"] := by
  obtain ⟨-, -, -, listed, anyOrder, -, -⟩ :=
    pending_in_order_of_registration { capacity := 2, defaultTimeout := none } succeeding rfl
  refine ⟨_, rfl, by decide, by decide, ?_⟩
  rw [(anyOrder _ (List.reverse_perm _)).1, listed]
  decide

end Gate

end OperatorDesk
