/-
This file says what readers get. A letter counts while its own exchange is pending. A reader gets
the first letter that counts, or all of them in the order of the mailbox; the letters that do not
count are passed over, and the exchanges of those that were read give their slots back. What is
read does not change which of the other letters count.
-/

import OperatorDesk.Proofs.Gate.Capacity
import OperatorDesk.Proofs.Gate.Shutdown

namespace OperatorDesk

/-- The exchange once these letters were read. -/
def Exchange.readWith (letters : List Letter) (exchange : Exchange) : Exchange :=
  if exchange.number ∈ letters.map Letter.number then { exchange with holdsSlot := false }
  else exchange

theorem Exchange.readWith_nil (exchange : Exchange) : exchange.readWith [] = exchange :=
  if_neg List.not_mem_nil

theorem Exchange.number_readWith (letters : List Letter) (exchange : Exchange) :
    (exchange.readWith letters).number = exchange.number := by
  unfold readWith
  split <;> rfl

theorem Exchange.question_readWith (letters : List Letter) (exchange : Exchange) :
    (exchange.readWith letters).question = exchange.question := by
  unfold readWith
  split <;> rfl

theorem Exchange.readWith_readWith (first second : List Letter) (exchange : Exchange) :
    (exchange.readWith first).readWith second = exchange.readWith (first ++ second) := by
  by_cases before : exchange.number ∈ first.map Letter.number <;>
    by_cases after : exchange.number ∈ second.map Letter.number <;>
      simp [readWith, before, after]

namespace Gate

/-- The question that a reading has come back with. -/
def Reading.question? : Reading → Option Question
  | .question asked => some asked
  | _ => none

/-- What a reader is told that has found this, or else waits. -/
def Reading.orPending : Option Question → Reading
  | some asked => .question asked
  | none => .pending

/-- The letters that a move takes to a reader. -/
def yielded (gate : Gate) : Move → List Letter
  | .tryNext => gate.unread.take 1
  | .drain => gate.unread
  | .pollNext => gate.unread.take 1
  | .pollStream => gate.unread.take 1
  | _ => []

theorem yielded_of_not_isReading {gate : Gate} {move : Move}
    (elsewhere : move.isReading = false) : gate.yielded move = [] := by
  cases move <;> first | rfl | cases elsewhere

/-- The questions that a move returns to a reader. -/
def returned (gate : Gate) : Move → List Question
  | .tryNext => gate.tryNext.2.toList
  | .drain => gate.drain.2
  | .pollNext => gate.pollNext.2.question?.toList
  | .pollStream => gate.pollStream.2.question?.toList
  | _ => []

variable {gate : Gate} {letter : Letter} {rest : List Letter}

/-! ### Reading -/

/-- These letters were read, in order, and the letters between them were passed over. -/
structure Reads (gate later : Gate) (letters : List Letter) : Prop where
  mailbox : ∃ passed, gate.mailbox = passed ++ later.mailbox ∧ letters.Sublist passed
  unread : gate.unread = letters ++ later.unread
  pending : later.pending = gate.pending.map (Exchange.readWith letters)

/-- Which letters count depends on the pending exchanges without their slots. -/
theorem isCurrent_map {later : Gate} {letters : List Letter}
    (pending : later.pending = gate.pending.map (Exchange.readWith letters)) (id : String)
    (number : Nat) : later.isCurrent id number = gate.isCurrent id number := by
  simp only [isCurrent, find?, pending, List.find?_map, Function.comp_def, Option.any_map,
    Exchange.question_readWith, Exchange.number_readWith]

theorem pending_map_nil (pending : List Exchange) :
    pending.map (Exchange.readWith []) = pending := by
  rw [funext Exchange.readWith_nil, List.map_id']

theorem unread_append {later : Gate} {passed : List Letter}
    (same : ∀ id number, later.isCurrent id number = gate.isCurrent id number)
    (mailbox : gate.mailbox = passed ++ later.mailbox) :
    gate.unread =
      passed.filter (fun letter => gate.isCurrent letter.question.id letter.number) ++
        later.unread := by
  simp only [Gate.unread, mailbox, List.filter_append, same]

theorem Reads.trans {first second third : Gate} {before after : List Letter}
    (left : first.Reads second before) (right : second.Reads third after) :
    first.Reads third (before ++ after) := by
  obtain ⟨passed, isFirst, fewer⟩ := left.mailbox
  obtain ⟨more, isSecond, further⟩ := right.mailbox
  refine ⟨⟨passed ++ more, ?_, fewer.append further⟩, ?_, ?_⟩
  · rw [isFirst, isSecond, List.append_assoc]
  · rw [left.unread, right.unread, List.append_assoc]
  · rw [right.pending, left.pending, List.map_map]
    exact List.map_congr_left fun exchange _ => exchange.readWith_readWith before after

/-- Letters that do not count are passed over. -/
theorem reads_nil {later : Gate} (passed : List Letter)
    (mailbox : gate.mailbox = passed ++ later.mailbox) (pending : later.pending = gate.pending)
    (stale : ∀ letter ∈ passed, gate.isCurrent letter.question.id letter.number = false) :
    gate.Reads later [] := by
  have same : later.pending = gate.pending.map (Exchange.readWith []) := by
    rw [pending, pending_map_nil]
  refine ⟨⟨passed, mailbox, List.nil_sublist _⟩, ?_, same⟩
  have none : passed.filter (fun letter =>
      gate.isCurrent letter.question.id letter.number) = [] :=
    List.filter_eq_nil_iff.mpr fun letter member => Bool.eq_false_iff.mp (stale letter member)
  rw [unread_append (isCurrent_map same) mailbox, none]

theorem Reads.refl (gate : Gate) : gate.Reads gate [] :=
  reads_nil [] rfl rfl fun _ member => absurd member List.not_mem_nil

theorem accept_cases (gate : Gate) (letter : Letter) :
    gate.isCurrent letter.question.id letter.number = false ∧ gate.accept letter = (gate, none) ∨
      gate.isCurrent letter.question.id letter.number = true ∧
        ∃ later, gate.accept letter = (later, some letter.question) := by
  cases current : gate.isCurrent letter.question.id letter.number with
  | false => exact Or.inl ⟨rfl, accept_of_not_isCurrent current⟩
  | true =>
    obtain ⟨exchange, found, same⟩ := (Option.any_eq_true _ _).mp current
    exact Or.inr ⟨rfl, _, accept_of_isCurrent found (beq_iff_eq.mp same)⟩

/-! ### The first letter that counts -/

/-- Reading a letter that counts is marked at its exchange and at no other. -/
theorem Orderly.pending_markSlot (orderly : gate.Orderly []) (isLetter : letter ∈ gate.mailbox)
    (current : gate.isCurrent letter.question.id letter.number = true) :
    (gate.markSlot letter.question.id false).pending =
      gate.pending.map (Exchange.readWith [letter]) := by
  obtain ⟨own, member, sameNumber⟩ := (orderly.isCurrent_iff isLetter).mp current
  have sameQuestion := (orderly.mail.unread letter isLetter own member sameNumber).2
  refine List.map_congr_left fun exchange isPending => ?_
  have isOwn : exchange.question.id = letter.question.id ↔
      exchange.number ∈ [letter].map Letter.number := by
    rw [← sameQuestion, List.map_singleton, List.mem_singleton, ← sameNumber]
    constructor
    · intro same
      rw [orderly.distinctIds.eq_of_id isPending member same]
    · intro same
      rw [orderly.registry.eq_of_number isPending member same]
  simp only [Exchange.readWith, isOwn]

theorem Orderly.reads_accept (orderly : gate.Orderly []) (isFirst : gate.mailbox = letter :: rest)
    (current : gate.isCurrent letter.question.id letter.number = true) :
    gate.Reads ({ gate with mailbox := rest }.accept letter).1 [letter] := by
  have isLetter : letter ∈ gate.mailbox := isFirst ▸ List.mem_cons_self
  obtain ⟨exchange, found, same⟩ := (Option.any_eq_true _ _).mp current
  have isFound : { gate with mailbox := rest }.find? letter.question.id = some exchange := found
  have pending : ({ gate with mailbox := rest }.accept letter).1.pending =
      gate.pending.map (Exchange.readWith [letter]) := by
    rw [accept_of_isCurrent isFound (beq_iff_eq.mp same), pending_releaseOf]
    exact orderly.pending_markSlot isLetter current
  have mailbox : gate.mailbox =
      [letter] ++ ({ gate with mailbox := rest }.accept letter).1.mailbox := by
    rw [mailbox_accept]
    exact isFirst
  refine ⟨⟨[letter], mailbox, List.Sublist.refl _⟩, ?_, pending⟩
  have counts : [letter].filter (fun letter =>
      gate.isCurrent letter.question.id letter.number) = [letter] :=
    List.filter_eq_self.mpr fun other member => by rw [List.mem_singleton.mp member]; exact current
  rw [unread_append (isCurrent_map pending) mailbox, counts]

/-- What is read first is the first letter that counts, and none is left if there is none. -/
theorem Orderly.reads_firstOf (orderly : gate.Orderly []) {letters : List Letter}
    (isMailbox : gate.mailbox = letters) :
    (gate.firstOf letters).2.toList = (gate.unread.take 1).map Letter.question ∧
      gate.Reads (gate.firstOf letters).1 (gate.unread.take 1) ∧
      (gate.unread = [] → gate.firstOf letters = ({ gate with mailbox := [] }, none)) := by
  induction letters generalizing gate with
  | nil =>
    have nothing : gate.unread = [] := by rw [Gate.unread, isMailbox, List.filter_nil]
    have emptied : { gate with mailbox := [] } = gate := by rw [← isMailbox]
    rw [nothing, firstOf, emptied]
    exact ⟨rfl, Reads.refl gate, fun _ => rfl⟩
  | cons letter rest inductionHypothesis =>
    have shorter := (orderly.readLetter isMailbox).1
    unfold Gate.firstOf
    rcases accept_cases { gate with mailbox := rest } letter with ⟨stale, same⟩ |
      ⟨current, later, same⟩
    · have passedOver : gate.Reads { gate with mailbox := rest } [] := by
        refine reads_nil [letter] isMailbox rfl fun other member => ?_
        rw [List.mem_singleton.mp member]
        exact stale
      rw [same] at shorter ⊢
      obtain ⟨asked, reads, nothing⟩ := inductionHypothesis shorter rfl
      rw [passedOver.unread]
      exact ⟨asked, passedOver.trans reads, nothing⟩
    · have reads := orderly.reads_accept isMailbox current
      rw [same] at reads ⊢
      rw [reads.unread]
      exact ⟨rfl, reads, fun nothing => by cases nothing⟩

/-! ### The readers -/

theorem signalled_accept (gate : Gate) (letter : Letter) :
    (gate.accept letter).1.signalled = gate.signalled ∧
      (gate.accept letter).1.closed = gate.closed := by
  have surroundings := (touches_accept gate letter []).surroundings
  exact ⟨congrArg Surroundings.signalled surroundings, congrArg Surroundings.closed surroundings⟩

/-- While the gate is open, a reader that waits finds what one finds that does not. -/
theorem nextOf_eq_firstOf (isOpen : gate.signalled = false) (letters : List Letter) :
    gate.nextOf letters =
      ((gate.firstOf letters).1, Reading.orPending (gate.firstOf letters).2) := by
  induction letters generalizing gate with
  | nil => rw [nextOf, if_neg (by rw [isOpen]; exact Bool.false_ne_true)]; rfl
  | cons letter rest inductionHypothesis =>
    have told := (signalled_accept { gate with mailbox := rest } letter).1
    rw [nextOf, if_neg (by rw [isOpen]; exact Bool.false_ne_true), firstOf]
    rcases accept_cases { gate with mailbox := rest } letter with ⟨-, same⟩ | ⟨-, later, same⟩
    · rw [same] at told ⊢
      exact inductionHypothesis isOpen
    · rw [same]
      rfl

/-- The two readers that wait agree once everybody has been told of the closing. -/
theorem streamOf_eq_nextOf (told : gate.signalled = gate.closed) (letters : List Letter) :
    gate.streamOf letters = gate.nextOf letters := by
  have seen : (gate.closed || gate.signalled) = gate.signalled := by rw [told, Bool.or_self]
  induction letters generalizing gate with
  | nil => rw [streamOf, nextOf, seen]
  | cons letter rest inductionHypothesis =>
    rw [streamOf, nextOf, seen]
    rcases accept_cases { gate with mailbox := rest } letter with ⟨-, same⟩ | ⟨-, later, same⟩
    · have later : { gate with mailbox := rest }.streamOf rest =
          { gate with mailbox := rest }.nextOf rest := inductionHypothesis told seen
      simp only [same, later]
    · rw [same]

theorem Orderly.reads_tryNext (orderly : gate.Orderly []) (isOpen : gate.signalled = false) :
    gate.tryNext.2.toList = (gate.unread.take 1).map Letter.question ∧
      gate.Reads gate.tryNext.1 (gate.unread.take 1) ∧
      (gate.unread = [] → gate.tryNext = ({ gate with mailbox := [] }, none)) := by
  rw [tryNext, if_neg (by rw [isOpen]; exact Bool.false_ne_true)]
  exact orderly.reads_firstOf rfl

/-- Taking question after question takes all letters that count, in the order of the mailbox, and
leaves no letter behind. -/
theorem Orderly.reads_drainUpTo (orderly : gate.Orderly []) (isOpen : gate.signalled = false)
    {count : Nat} (enough : gate.mailbox.length ≤ count) :
    (gate.drainUpTo count).2 = gate.unread.map Letter.question ∧
      gate.Reads (gate.drainUpTo count).1 gate.unread ∧
      (gate.drainUpTo count).1.mailbox = [] := by
  induction count generalizing gate with
  | zero =>
    have empty : gate.mailbox = [] := List.length_eq_zero_iff.mp (Nat.le_zero.mp enough)
    have nothing : gate.unread = [] := by rw [Gate.unread, empty, List.filter_nil]
    rw [nothing]
    exact ⟨rfl, Reads.refl gate, empty⟩
  | succ count inductionHypothesis =>
    obtain ⟨asked, reads, nothing⟩ := orderly.reads_tryNext isOpen
    have kept := orderly.reading.1.1
    have told := congrArg Surroundings.signalled (touches_reading gate).1.surroundings
    unfold drainUpTo
    obtain ⟨later, question?, taken⟩ : ∃ later question?, gate.tryNext = (later, question?) :=
      ⟨_, _, rfl⟩
    simp only [taken] at asked reads nothing kept told ⊢
    cases unread : gate.unread with
    | nil =>
      rw [unread] at reads
      obtain ⟨rfl, rfl⟩ := Prod.mk.inj (nothing unread)
      exact ⟨rfl, reads, rfl⟩
    | cons letter others =>
      rw [unread] at asked reads
      cases question? with
      | none => cases asked
      | some question =>
        have isFirst : question = letter.question := (List.cons.inj asked).1
        have rest : later.unread = others :=
          (List.cons.inj (unread.symm.trans reads.unread)).2.symm
        have shorter : later.mailbox.length ≤ count := by
          obtain ⟨passed, isMailbox, fewer⟩ := reads.mailbox
          have some : 1 ≤ passed.length := fewer.length_le
          rw [isMailbox, List.length_append] at enough
          omega
        obtain ⟨more, further, empty⟩ := inductionHypothesis kept (told.trans isOpen) shorter
        rw [rest] at more further
        refine ⟨?_, reads.trans further, empty⟩
        show question :: (later.drainUpTo count).2 = _
        rw [more, isFirst, List.map_cons]

/-- A reader returns the questions of the letters that it takes, and it takes the first letter
that counts, or all of them. -/
theorem Orderly.reads_step (orderly : gate.Orderly []) (move : Move)
    (isReading : move.isReading = true) (stays : move ≠ .dropSeat) :
    gate.returned move = (gate.yielded move).map Letter.question ∧
      gate.Reads (gate.step move) (gate.yielded move) := by
  cases isClosed : gate.closed with
  | true =>
    have ended := orderly.over isClosed
    have nothing : gate.unread = [] := by
      refine List.filter_eq_nil_iff.mpr fun letter member => ?_
      rw [orderly.isCurrent_iff member, ended.pending]
      rintro ⟨exchange, absent, -⟩
      cases absent
    cases move with
    | dropSeat => exact absurd rfl stays
    | tryNext => simp [returned, yielded, Gate.step, ended.tryNext, nothing, Reads.refl]
    | drain => simp [returned, yielded, Gate.step, ended.drain, nothing, Reads.refl]
    | pollNext =>
      simp [returned, yielded, Gate.step, ended.pollNext, nothing, Reads.refl, Reading.question?]
    | pollStream =>
      simp [returned, yielded, Gate.step, ended.pollStream, nothing, Reads.refl, Reading.question?]
    | _ => cases isReading
  | false =>
    have isOpen : gate.signalled = false := orderly.closing.told.trans isClosed
    have question? : ∀ asked, (Reading.orPending asked).question? = asked := by
      intro asked
      cases asked <;> rfl
    obtain ⟨asked, reads, -⟩ := orderly.reads_firstOf rfl
    cases move with
    | dropSeat => exact absurd rfl stays
    | tryNext =>
      obtain ⟨asked, reads, -⟩ := orderly.reads_tryNext isOpen
      exact ⟨asked, reads⟩
    | drain =>
      obtain ⟨asked, reads, -⟩ := orderly.reads_drainUpTo isOpen (Nat.le_refl _)
      exact ⟨asked, reads⟩
    | pollNext =>
      rw [returned, Gate.step, Gate.pollNext, nextOf_eq_firstOf isOpen, question?]
      exact ⟨asked, reads⟩
    | pollStream =>
      rw [returned, Gate.step, Gate.pollStream, streamOf_eq_nextOf orderly.closing.told,
        nextOf_eq_firstOf isOpen, question?]
      exact ⟨asked, reads⟩
    | _ => cases isReading

end Gate

end OperatorDesk
