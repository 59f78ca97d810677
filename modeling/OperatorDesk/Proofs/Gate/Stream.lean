/-
This file shows that each question reaches the reader once at most, and only while its exchange is
pending. Unless the reader is gone, a question that was put into the mailbox is there until it is
read or its exchange ends, and its exchange holds a slot exactly so long. A reader that finds
nothing takes nothing that anybody waits for, and what is posted while it sleeps stays for the
next one.
-/

import OperatorDesk.Proofs.Gate.Posting
import Mathlib.Data.List.Nodup

namespace OperatorDesk.Gate

/-- The letters that were posted in a run. -/
def postings (gate : Gate) (moves : List Move) : List Letter :=
  observed posted? gate moves

/-- The letters that reached a reader in a run. -/
def deliveries (gate : Gate) (moves : List Move) : List Letter :=
  (observed (fun gate move => some (gate.yielded move)) gate moves).flatten

variable {gate : Gate} {posted delivered : List Letter}

theorem postings_concat (gate : Gate) (moves : List Move) (move : Move) :
    gate.postings (moves ++ [move]) =
      gate.postings moves ++ ((gate.run moves).posted? move).toList :=
  observed_concat posted? gate moves move

theorem deliveries_append (gate : Gate) (first second : List Move) :
    gate.deliveries (first ++ second) =
      gate.deliveries first ++ (gate.run first).deliveries second := by
  rw [deliveries, observed_append, List.flatten_append]
  rfl

theorem deliveries_concat (gate : Gate) (moves : List Move) (move : Move) :
    gate.deliveries (moves ++ [move]) = gate.deliveries moves ++ (gate.run moves).yielded move := by
  rw [deliveries_append]
  exact congrArg _ (List.append_nil _)

/-- While nobody reads, nothing reaches a reader. -/
theorem deliveries_eq_nil (gate : Gate) {moves : List Move}
    (unread : ∀ move ∈ moves, move.isReading = false) : gate.deliveries moves = [] := by
  induction moves generalizing gate with
  | nil => rfl
  | cons move rest inductionHypothesis =>
    have later := inductionHypothesis (gate.step move) fun other member =>
      unread other (List.mem_cons_of_mem move member)
    have nothing : gate.yielded move = [] := yielded_of_not_isReading
      (unread move List.mem_cons_self)
    show gate.yielded move ++ (gate.step move).deliveries rest = []
    rw [nothing, later, List.append_nil]

/-! ### Letters that were posted and letters that were read -/

/-- The letters that were posted have been passed, or are in the mailbox; those that were read are
among the former. No number is posted twice, and none for which a slot is still looked for. A
pending exchange whose letter was posted and that holds no slot was read. -/
structure Mailed (gate : Gate) (posted delivered : List Letter) : Prop where
  mailbox : ∃ passed, posted = passed ++ gate.mailbox ∧ delivered.Sublist passed
  once : (posted.map Letter.number).Nodup
  numbered : ∀ letter ∈ posted, letter.number ≤ gate.registered
  unposted : ∀ (id : AskerId) asker number, gate.askers[id]? = some asker →
    asker.stage.seeking? = some number → number ∉ posted.map Letter.number
  read : ∀ exchange ∈ gate.pending, exchange.holdsSlot = false →
    exchange.number ∈ posted.map Letter.number → exchange.number ∈ delivered.map Letter.number

theorem Mailed.not_mem_of_registered (mailed : gate.Mailed posted delivered) {number : Nat}
    (isNew : gate.registered < number) : number ∉ posted.map Letter.number := by
  intro member
  obtain ⟨letter, isPosted, rfl⟩ := List.mem_map.mp member
  exact Nat.not_lt.mpr (mailed.numbered letter isPosted) isNew

/-- What is posted was not posted before. -/
theorem Mailed.fresh (mailed : gate.Mailed posted delivered) {move : Move} {letter : Letter}
    (posts : gate.posted? move = some letter) :
    letter.number ∉ posted.map Letter.number := by
  obtain ⟨id, asker, -, known, granted | isNext, -⟩ := origin_of_posted? posts
  · exact mailed.unposted id asker letter.number known (by rw [granted]; rfl)
  · exact mailed.not_mem_of_registered (by rw [isNext]; exact Nat.lt_succ_self _)

/-- Nobody looks for a slot for what is posted. -/
theorem Orderly.seeking_ne_posted (orderly : gate.Orderly []) {move : Move} {letter : Letter}
    (posts : gate.posted? move = some letter) {id : AskerId} {asker : Asker} {number : Nat}
    (isAfter : (gate.step move).askers[id]? = some asker)
    (seeks : asker.stage.seeking? = some number) : number ≠ letter.number := by
  rintro rfl
  obtain ⟨poster, current, rfl, known, numbered, arrived, -⟩ := origin_of_posted? posts
  rcases orderly.arrival_or_passage isAfter with ⟨_, _, impossible, -⟩ | ⟨before, wasKnown, passage⟩
  · cases impossible
  have different : id ≠ poster := by
    rintro rfl
    have turned := orderly.askers_poll known
    rw [show (gate.poll id).askers[id]? = some asker from isAfter, Option.some_inj] at turned
    rw [turned, arrived] at seeks
    cases seeks
  rcases passage.seeking seeks with sought | ⟨isTurn, -⟩
  · have waits := Stage.number?_of_seeking sought
    rcases numbered with granted | isNext
    · exact different (orderly.ownership.apart id poster before current letter.number wasKnown known
        List.not_mem_nil List.not_mem_nil waits (by rw [granted]; rfl))
    · have bound := orderly.ownership.numbered id before _ wasKnown List.not_mem_nil waits
      omega
  · exact different (Move.poll.inj isTurn).symm

theorem Mailed.step (mailed : gate.Mailed posted delivered) (orderly : gate.Orderly [])
    (move : Move) :
    (gate.step move).Mailed (posted ++ (gate.posted? move).toList)
      (delivered ++ gate.yielded move) := by
  have later := (orderly.step move).1
  have carries := orderly.carries_step move
  have isNew : ∀ {number : Nat}, number ∈ ((gate.posted? move).toList).map Letter.number →
      ∃ letter, gate.posted? move = some letter ∧ letter.number = number := by
    intro number member
    obtain ⟨letter, isLetter, same⟩ := List.mem_map.mp member
    exact ⟨letter, Option.mem_toList.mp isLetter, same⟩
  refine ⟨?_, ?_, ?_, ?_, ?_⟩
  · obtain ⟨passed, isPosted, fewer⟩ := mailed.mailbox
    obtain ⟨more, isMore, further⟩ := carries.mailbox
    refine ⟨passed ++ more, ?_, fewer.append further⟩
    rw [isPosted, List.append_assoc, isMore, List.append_assoc]
  · rw [List.map_append]
    cases posts : gate.posted? move with
    | none => rw [Option.toList_none, List.map_nil, List.append_nil]; exact mailed.once
    | some letter =>
      refine List.nodup_append.mpr ⟨mailed.once, List.pairwise_singleton _ _, ?_⟩
      intro first isFirst last isLast same
      rw [List.mem_singleton.mp isLast] at same
      exact mailed.fresh posts (same ▸ isFirst)
  · intro letter member
    rcases List.mem_append.mp member with before | last
    · exact Nat.le_trans (mailed.numbered letter before) carries.registered
    · obtain ⟨_, _, -, -, -, -, isLetter⟩ := origin_of_posted? (Option.mem_toList.mp last)
      exact later.mail.numbered letter isLetter
  · intro id asker number isAfter seeks member
    rw [List.map_append] at member
    rcases List.mem_append.mp member with before | last
    · rcases orderly.arrival_or_passage isAfter with ⟨_, _, -, -, rfl⟩ | ⟨_, known, passage⟩
      · cases seeks
      · rcases passage.seeking seeks with sought | ⟨-, rfl⟩
        · exact mailed.unposted id _ number known sought before
        · exact mailed.not_mem_of_registered (Nat.lt_succ_self _) before
    · obtain ⟨letter, posts, same⟩ := isNew last
      exact orderly.seeking_ne_posted posts isAfter seeks same.symm
  · intro exchange isPending slotless member
    rw [List.map_append] at member ⊢
    rcases List.mem_append.mp member with before | last
    · rcases carries.slotless exchange isPending slotless with wasPending | registers | isRead
      · exact List.mem_append_left _ (mailed.read exchange wasPending slotless before)
      · exact absurd before (mailed.not_mem_of_registered registers)
      · exact List.mem_append_right _ isRead
    · -- The letter is in the mailbox now, so its exchange holds a slot.
      obtain ⟨letter, posts, same⟩ := isNew last
      obtain ⟨_, _, -, -, -, -, isLetter⟩ := origin_of_posted? posts
      have holds := (later.mail.unread letter isLetter exchange isPending same.symm).1
      rw [slotless] at holds
      cases holds

theorem mailed_run (settings : GateSettings) (moves : List Move) :
    ((new settings).run moves).Mailed ((new settings).postings moves)
      ((new settings).deliveries moves) := by
  refine run_invariant (fun moves gate => gate.Mailed ((new settings).postings moves)
    ((new settings).deliveries moves)) (new settings) ?_ ?_ moves
  · refine ⟨⟨[], rfl, List.Sublist.refl _⟩, List.nodup_nil, ?_, ?_, ?_⟩
    · exact fun _ member => absurd member List.not_mem_nil
    · exact fun _ _ _ known => by cases known
    · exact fun _ member => absurd member List.not_mem_nil
  · intro moves move mailed
    rw [postings_concat, deliveries_concat]
    exact mailed.step (orderly_run settings moves) move

/-! ### Where a question is -/

theorem Mailed.not_mem_delivered (mailed : gate.Mailed posted delivered) {letter : Letter}
    (isLetter : letter ∈ gate.mailbox) : letter.number ∉ delivered.map Letter.number := by
  intro member
  obtain ⟨passed, isPosted, fewer⟩ := mailed.mailbox
  have once := mailed.once
  rw [isPosted, List.map_append] at once
  exact (List.nodup_append.mp once).2.2 letter.number ((fewer.map _).subset member) letter.number
    (List.mem_map_of_mem isLetter) rfl

theorem Mailed.delivered_sublist (mailed : gate.Mailed posted delivered) :
    delivered.Sublist posted := by
  obtain ⟨passed, isPosted, fewer⟩ := mailed.mailbox
  rw [isPosted]
  exact fewer.trans (List.sublist_append_left _ _)

theorem Mailed.nodup_delivered (mailed : gate.Mailed posted delivered) :
    (delivered.map Letter.number).Nodup :=
  mailed.once.sublist (mailed.delivered_sublist.map _)

/-- The number of letters in the mailbox with this number. -/
def copies (gate : Gate) (number : Nat) : Nat :=
  gate.mailbox.countP (·.number == number)

theorem Orderly.copies_eq_one (orderly : gate.Orderly []) {letter : Letter}
    (isLetter : letter ∈ gate.mailbox) : gate.copies letter.number = 1 := by
  have once : (gate.mailbox.map Letter.number).Nodup := List.pairwise_map.mpr orderly.mail.apart
  have counted := List.count_eq_one_of_mem once (List.mem_map_of_mem isLetter)
  rwa [List.count, List.countP_map] at counted

theorem Orderly.copies_eq_zero (orderly : gate.Orderly []) {exchange : Exchange}
    (member : exchange ∈ gate.pending) (slotless : exchange.holdsSlot = false) :
    gate.copies exchange.number = 0 := by
  refine List.countP_eq_zero.mpr fun letter isLetter same => ?_
  have holds :=
    (orderly.mail.unread letter isLetter exchange member (beq_iff_eq.mp same).symm).1
  rw [slotless] at holds
  cases holds

/-- The question was read, and its exchange holds no slot, or it waits in the mailbox, and its
exchange holds one. -/
def ReadOrWaiting (gate : Gate) (delivered : List Letter) (exchange : Exchange) : Prop :=
  exchange.holdsSlot = false ∧ exchange.number ∈ delivered.map Letter.number ∧
      gate.copies exchange.number = 0 ∨
    exchange.holdsSlot = true ∧ exchange.number ∉ delivered.map Letter.number ∧
      gate.copies exchange.number = 1

theorem Mailed.readOrWaiting (mailed : gate.Mailed posted delivered) (orderly : gate.Orderly [])
    (readable : gate.seat ≠ .gone) {exchange : Exchange} (member : exchange ∈ gate.pending)
    (isPosted : exchange.number ∈ posted.map Letter.number) :
    gate.ReadOrWaiting delivered exchange := by
  cases holds : exchange.holdsSlot with
  | false =>
    exact Or.inl ⟨holds, mailed.read exchange member holds isPosted,
      orderly.copies_eq_zero member holds⟩
  | true =>
    obtain ⟨letter, isLetter, same⟩ :=
      orderly.mail.posted exchange member List.not_mem_nil holds readable
    rw [ReadOrWaiting, ← same]
    exact Or.inr ⟨holds, mailed.not_mem_delivered isLetter, orderly.copies_eq_one isLetter⟩

/-! ### What a reader gets -/

theorem mem_unread_of_yielded {move : Move} {letter : Letter}
    (isYielded : letter ∈ gate.yielded move) : letter ∈ gate.unread := by
  cases move with
  | drain => exact isYielded
  | tryNext => exact List.mem_of_mem_take isYielded
  | pollNext => exact List.mem_of_mem_take isYielded
  | pollStream => exact List.mem_of_mem_take isYielded
  | _ => cases isYielded

/-- A letter counts while its exchange is pending, and then it says what was asked. -/
theorem Orderly.mem_unread_iff (orderly : gate.Orderly []) {letter : Letter} :
    letter ∈ gate.unread ↔ letter ∈ gate.mailbox ∧
      ∃ exchange ∈ gate.pending, exchange.number = letter.number ∧
        exchange.question = letter.question := by
  rw [unread, List.mem_filter]
  refine and_congr_right fun isLetter => ?_
  rw [orderly.isCurrent_iff isLetter]
  constructor
  · rintro ⟨exchange, member, same⟩
    exact ⟨exchange, member, same,
      (orderly.mail.unread letter isLetter exchange member same).2⟩
  · rintro ⟨exchange, member, same, -⟩
    exact ⟨exchange, member, same⟩

theorem Orderly.returned_eq (orderly : gate.Orderly []) (move : Move) :
    gate.returned move = (gate.yielded move).map Letter.question := by
  cases move with
  | tryNext => exact (orderly.reads_step _ rfl Move.noConfusion).1
  | drain => exact (orderly.reads_step _ rfl Move.noConfusion).1
  | pollNext => exact (orderly.reads_step _ rfl Move.noConfusion).1
  | pollStream => exact (orderly.reads_step _ rfl Move.noConfusion).1
  | _ => rfl

/-- Draining leaves nothing to be read. -/
theorem Orderly.unread_drain (orderly : gate.Orderly []) : gate.drain.1.unread = [] := by
  have reads := (orderly.reads_step .drain rfl Move.noConfusion).2
  exact List.append_right_eq_self.mp reads.unread.symm

/-! ### A reader that sleeps -/

/-- The reader is told to wait. -/
def parks (gate : Gate) : Move → Prop
  | .pollNext => gate.pollNext.2 = .pending
  | .pollStream => gate.pollStream.2 = .pending
  | _ => False

/-- A reader that is told to wait has taken away letters that do not count, and nothing else. -/
theorem Orderly.step_of_parks (orderly : gate.Orderly []) {move : Move} (parks : gate.parks move) :
    gate.unread = [] ∧ gate.step move = { gate with mailbox := [] } := by
  have isOpen : gate.signalled = false := by
    refine (orderly.closing.told.trans ?_)
    refine Bool.eq_false_iff.mpr fun isClosed => ?_
    have ended := orderly.over isClosed
    cases move with
    | pollNext => rw [Gate.parks, ended.pollNext] at parks; cases parks
    | pollStream => rw [Gate.parks, ended.pollStream] at parks; cases parks
    | _ => exact parks
  obtain ⟨asked, -, nothing⟩ := orderly.reads_firstOf rfl
  have found : ∀ {question? : Option Question},
      Reading.orPending question? = .pending → question? = none := by
    intro question? waits
    cases question? with
    | none => rfl
    | some question => cases waits
  have empty : Reading.orPending (gate.firstOf gate.mailbox).2 = .pending → gate.unread = [] := by
    intro waits
    rw [found waits] at asked
    cases unread : gate.unread with
    | nil => rfl
    | cons letter rest => rw [unread] at asked; cases asked
  cases move with
  | pollNext =>
    rw [Gate.parks, Gate.pollNext, nextOf_eq_firstOf isOpen] at parks
    rw [Gate.step, Gate.pollNext, nextOf_eq_firstOf isOpen, nothing (empty parks)]
    exact ⟨empty parks, rfl⟩
  | pollStream =>
    rw [Gate.parks, Gate.pollStream, streamOf_eq_nextOf orderly.closing.told,
      nextOf_eq_firstOf isOpen] at parks
    rw [Gate.step, Gate.pollStream, streamOf_eq_nextOf orderly.closing.told,
      nextOf_eq_firstOf isOpen, nothing (empty parks)]
    exact ⟨empty parks, rfl⟩
  | _ => exact parks.elim

/-- Letters stay where they were posted until somebody reads. -/
theorem Orderly.mailbox_run (orderly : gate.Orderly []) (moves : List Move)
    (unread : ∀ move ∈ moves, move.isReading = false) :
    (gate.run moves).mailbox = gate.mailbox ++ gate.postings moves := by
  refine run_invariant (fun moves later => (∀ move ∈ moves, move.isReading = false) →
    later.mailbox = gate.mailbox ++ gate.postings moves) gate
    (fun _ => (List.append_nil _).symm) ?_ moves unread
  intro moves move before unread
  have ordered := (orderly.run moves).1
  have isLast : move ∈ moves ++ [move] := List.mem_append_right _ (List.mem_singleton_self move)
  have posts := ordered.posts_step (unread move isLast)
  rw [posts.mailbox, before fun other member => unread other (List.mem_append_left _ member),
    postings_concat, List.append_assoc]

/-! ### Exactly once -/

/-- No registration reaches a reader twice, and whatever is read next is the question of a pending
exchange, as it was asked. Unless the reader is gone, a pending question that was posted was read,
or waits in the mailbox once. Draining returns the questions in the mailbox whose exchanges are
pending, in order, and a reader that is told to wait takes none of them. -/
theorem stream_delivers_once (settings : GateSettings) (moves : List Move) {gate : Gate}
    (reached : (new settings).run moves = gate) :
    (((new settings).deliveries moves).map Letter.number).Nodup ∧
      (∀ move, gate.returned move = (gate.yielded move).map Letter.question ∧
        ∀ letter ∈ gate.yielded move, ∃ exchange ∈ gate.pending,
          exchange.number = letter.number ∧
            ((asked moves)[exchange.asker]?).map Prod.snd = some letter.question ∧
            ∃ registration ∈ (new settings).registrations moves,
              registration.exchange = exchange.unslotted) ∧
      (gate.seat ≠ .gone → ∀ exchange ∈ gate.pending,
        exchange.number ∈ ((new settings).postings moves).map Letter.number →
          gate.ReadOrWaiting ((new settings).deliveries moves) exchange) ∧
      (gate.drain.2 = gate.unread.map Letter.question ∧ gate.drain.1.unread = [] ∧
        gate.unread.Sublist gate.mailbox ∧ (gate.unread.map Letter.number).Nodup ∧
        ∀ letter, letter ∈ gate.unread ↔ letter ∈ gate.mailbox ∧ ∃ exchange ∈ gate.pending,
          exchange.number = letter.number ∧ exchange.question = letter.question) ∧
      ∀ move, gate.parks move → gate.unread = [] ∧ gate.step move = { gate with mailbox := [] } ∧
        ∀ rest, (∀ later ∈ rest, later.isReading = false) →
          ((gate.step move).run rest).mailbox = (gate.step move).postings rest := by
  have orderly : gate.Orderly [] := reached ▸ orderly_run settings moves
  have mailed := mailed_run settings moves
  have ledger := ledger_run settings moves
  rw [reached] at mailed ledger
  refine ⟨mailed.nodup_delivered, fun move => ⟨orderly.returned_eq move, ?_⟩,
    fun readable exchange => mailed.readOrWaiting orderly readable, ⟨?_, ?_, ?_, ?_, ?_⟩, ?_⟩
  · intro letter isYielded
    obtain ⟨-, exchange, member, sameNumber, sameQuestion⟩ :=
      orderly.mem_unread_iff.mp (mem_unread_of_yielded isYielded)
    obtain ⟨asker, known, owns⟩ := orderly.ownership.owned exchange member List.not_mem_nil
    subst reached
    refine ⟨exchange, member, sameNumber, ?_, ?_⟩
    · rw [question_of_asked known, owns.question, sameQuestion]
    · exact ledger.book.registration_of_pending member
  · exact orderly.returned_eq .drain
  · exact orderly.unread_drain
  · exact List.filter_sublist
  · exact List.pairwise_map.mpr (orderly.mail.apart.sublist List.filter_sublist)
  · exact fun letter => orderly.mem_unread_iff
  · intro move parks
    obtain ⟨nothing, same⟩ := orderly.step_of_parks parks
    refine ⟨nothing, same, fun rest unread => ?_⟩
    rw [(orderly.step move).1.mailbox_run rest unread, same, List.nil_append]

/-- The first question is cancelled before anybody reads, so that only the second is read, though
the letters of both are in the mailbox. -/
theorem stream_delivers_once_cancelled :
    ((new { capacity := 2, defaultTimeout := none }).run
      (crowdingWithTokens ++ [.cancel 0, .poll 0])).drain.2 =
        [.plain "Q-2" "Which name?"] := by
  have delivers := stream_delivers_once { capacity := 2, defaultTimeout := none }
    (crowdingWithTokens ++ [.cancel 0, .poll 0]) rfl
  refine delivers.2.2.2.1.1.trans ?_
  decide

end OperatorDesk.Gate
