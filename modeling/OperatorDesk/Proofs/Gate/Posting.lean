/-
This file follows the letters into the mailbox. Only the turn of an asker posts a letter, at most
one, behind all others, and only while the asker still looks for a slot; afterwards it does not
look for one any more. An exchange that comes out of a move without a slot went in without one, or
was just registered, or its letter was read.
-/

import OperatorDesk.Proofs.Gate.Letters

namespace OperatorDesk

/-- The number under which an asker looks for a slot, or has one in hand that it has not used. -/
def Stage.seeking? : Stage → Option Nat
  | .inLine number => some number
  | .granted number => some number
  | _ => none

theorem Stage.number?_of_seeking {stage : Stage} {number : Nat}
    (seeks : stage.seeking? = some number) : stage.number? = some number := by
  cases stage <;> first | exact seeks | cases seeks

theorem Asker.seeking?_handed (asker : Asker) :
    asker.handed.stage.seeking? = asker.stage.seeking? := by
  cases stage : asker.stage <;> simp [Asker.handed, Stage.seeking?, stage]

namespace Gate

variable {gate : Gate} {id : AskerId} {asker : Asker} {number : Nat}

/-! ### Posting -/

/-- These letters were posted, and no exchange lost its slot, though some may have been registered
without one. -/
structure Posts (gate later : Gate) (letters : List Letter) : Prop where
  mailbox : later.mailbox = gate.mailbox ++ letters
  registered : gate.registered ≤ later.registered
  slotless : ∀ exchange ∈ later.pending, exchange.holdsSlot = false →
    exchange ∈ gate.pending ∨ gate.registered < exchange.number

theorem posts_of_subset {later : Gate} (mailbox : later.mailbox = gate.mailbox)
    (registered : later.registered = gate.registered) (pending : later.pending ⊆ gate.pending) :
    gate.Posts later [] :=
  ⟨by rw [mailbox, List.append_nil], Nat.le_of_eq registered.symm,
    fun _ member _ => Or.inl (pending member)⟩

theorem posts_of_same {later : Gate} (mailbox : later.mailbox = gate.mailbox)
    (registered : later.registered = gate.registered) (pending : later.pending = gate.pending) :
    gate.Posts later [] :=
  posts_of_subset mailbox registered (by simp only [pending, List.Subset.refl])

theorem Posts.refl (gate : Gate) : gate.Posts gate [] :=
  posts_of_same rfl rfl rfl

theorem Posts.trans {first second third : Gate} {before after : List Letter}
    (left : first.Posts second before) (right : second.Posts third after) :
    first.Posts third (before ++ after) := by
  refine ⟨by rw [right.mailbox, left.mailbox, List.append_assoc],
    Nat.le_trans left.registered right.registered, ?_⟩
  intro exchange member slotless
  rcases right.slotless exchange member slotless with before | isNew
  · exact left.slotless exchange before slotless
  · exact Or.inr (Nat.lt_of_le_of_lt left.registered isNew)

theorem posts_releaseSlot (gate : Gate) : gate.Posts gate.releaseSlot [] := by
  obtain ⟨_, _, _, _, same⟩ := releaseSlot_frame gate
  rw [same]
  exact posts_of_same rfl rfl rfl

theorem posts_releaseOf (gate : Gate) (exchange : Exchange) :
    gate.Posts (gate.releaseOf exchange) [] := by
  unfold releaseOf
  split
  · exact posts_releaseSlot gate
  · exact Posts.refl gate

theorem posts_removePending (gate : Gate) (id : String) :
    gate.Posts (gate.removePending id) [] :=
  posts_of_subset rfl rfl (List.filter_subset_self _)

theorem posts_retract (gate : Gate) (id : String) (number : Nat) :
    gate.Posts (gate.retract id number).1 [] := by
  unfold retract
  split
  · split
    · exact (posts_removePending gate id).trans (posts_releaseOf _ _)
    · exact Posts.refl gate
  · exact Posts.refl gate

theorem posts_leave (gate : Gate) (id : AskerId) (asker : Asker) (number : Nat)
    (outcome : Outcome) : gate.Posts (gate.leave id asker number outcome) [] :=
  (posts_retract gate asker.question.id number).trans (posts_of_same rfl rfl rfl)

theorem posts_listen (gate : Gate) (id : AskerId) (asker : Asker) (number : Nat) :
    gate.Posts (gate.listen id asker number) [] := by
  unfold listen
  simp only [finishEarly_eq_leave]
  split
  · exact posts_of_same rfl rfl rfl
  · split
    · split
      · exact posts_leave gate id asker number _
      · exact posts_of_same rfl rfl rfl
    · exact posts_of_same rfl rfl rfl

theorem posts_markSlot (gate : Gate) (id : String) : gate.Posts (gate.markSlot id true) [] := by
  refine ⟨(List.append_nil _).symm, Nat.le_refl _, fun exchange member slotless => Or.inl ?_⟩
  obtain ⟨original, isOriginal, rfl⟩ := List.mem_map.mp member
  by_cases same : original.question.id = id
  · rw [if_pos same] at slotless
    cases slotless
  · rw [if_neg same]
    exact isOriginal

theorem posts_post (gate : Gate) (number : Nat) (question : Question) :
    gate.Posts (gate.post number question) [{ number, question }] := by
  obtain ⟨woken, same⟩ := post_frame gate number question
  rw [same]
  exact ⟨rfl, Nat.le_refl _, fun _ member _ => Or.inl member⟩

theorem posts_enroll (gate : Gate) (id : AskerId) (asker : Asker) :
    gate.Posts (gate.enroll id asker) [] := by
  refine ⟨(List.append_nil _).symm, Nat.le_succ _, fun exchange member _ => ?_⟩
  rcases mem_enroll.mp member with before | rfl
  · exact Or.inl before
  · exact Or.inr (Nat.lt_succ_self _)

/-- With a slot in hand an asker posts its question or nothing. -/
theorem posts_useSlot (gate : Gate) (id : AskerId) (asker : Asker) (number : Nat) :
    gate.Posts (gate.useSlot id asker number) [] ∨
      gate.Posts (gate.useSlot id asker number) [{ number, question := asker.question }] := by
  have marked := posts_markSlot gate asker.question.id
  unfold useSlot
  split
  · simp only
    split
    · exact Or.inl (marked.trans (posts_leave _ id asker number _))
    · exact Or.inr ((marked.trans (posts_post _ number asker.question)).trans
        (posts_listen _ id asker number))
  · exact Or.inl ((posts_releaseSlot gate).trans (posts_listen _ id asker number))

/-! ### The letter of a turn -/

/-- What the turn of an asker can post: nothing, or the letter of its question, if it has a slot
in hand or registers while one is free. -/
inductive Posting (gate : Gate) (id : AskerId) : List Letter → Prop where
  | nothing : Posting gate id []
  | letter (asker : Asker) (number : Nat) (known : gate.askers[id]? = some asker)
    (numbered : asker.stage = .granted number ∨
      gate.admits asker ∧ number = gate.registered + 1)
    (arrived : (gate.destination asker).seeking? = none) :
    Posting gate id [{ number, question := asker.question }]

theorem seeking?_afterListening (gate : Gate) (asker : Asker) (number : Nat) :
    (gate.afterListening asker number).seeking? = none := by
  unfold afterListening
  split
  · rfl
  · split
    · rfl
    · split <;> rfl

theorem seeking?_afterGrant (gate : Gate) (asker : Asker) (number : Nat) :
    (gate.afterGrant asker number).seeking? = none := by
  unfold afterGrant
  split
  · rfl
  · exact seeking?_afterListening gate asker number

/-- What registering an asker and looking for a slot posts. -/
theorem posts_begin (known : gate.askers[id]? = some asker) (admitted : gate.admits asker) :
    ∃ letters, Posting gate id letters ∧ gate.Posts (gate.begin id asker) letters := by
  have enrolled := posts_enroll gate id asker
  obtain ⟨unheard, stillOpen, absent⟩ := admitted
  simp only [begin_eq, stillOpen, absent, Bool.false_eq_true, if_false, finishEarly_eq_leave]
  split
  · exact ⟨[], .nothing, enrolled.trans (posts_leave _ id _ _ _)⟩
  next silent =>
  unfold Gate.seekSlot
  split
  · next isFree =>
    have some : 0 < gate.free := isFree
    have arrived : (gate.destination asker).seeking? = none := by
      simp only [Gate.destination, unheard, stillOpen, absent, Bool.false_eq_true, if_false,
        silent, if_pos some]
      exact seeking?_afterGrant gate _ _
    have taken : gate.Posts
        { gate.enroll id asker with free := (gate.enroll id asker).free - 1 } [] :=
      enrolled.trans (posts_of_same rfl rfl rfl)
    rcases posts_useSlot { gate.enroll id asker with free := (gate.enroll id asker).free - 1 } id
      (gate.bounded asker) (gate.registered + 1) with nothing | posted
    · exact ⟨[], .nothing, taken.trans nothing⟩
    · exact ⟨_, .letter asker _ known (Or.inr ⟨⟨unheard, stillOpen, absent⟩, rfl⟩) arrived,
        taken.trans posted⟩
  · exact ⟨[], .nothing, enrolled.trans (posts_of_same rfl rfl rfl)⟩

/-- What an asker posts that was handed a slot. -/
theorem posts_granted (known : gate.askers[id]? = some asker)
    (stage : asker.stage = .granted number) :
    ∃ letters, Posting gate id letters ∧ gate.Posts (gate.poll id) letters := by
  have released := posts_releaseSlot gate
  simp only [Gate.poll, known, stage, finishEarly_eq_leave]
  split
  · exact ⟨[], .nothing, released.trans (posts_leave _ id asker number _)⟩
  next silent =>
  split
  · exact ⟨[], .nothing, released.trans (posts_leave _ id asker number _)⟩
  have arrived : (gate.destination asker).seeking? = none := by
    simp only [Gate.destination, stage, silent]
    split
    · rfl
    · exact seeking?_afterGrant gate asker number
  rcases posts_useSlot gate id asker number with nothing | posted
  · exact ⟨[], .nothing, nothing⟩
  · exact ⟨_, .letter asker number known (Or.inl stage) arrived, posted⟩

theorem posts_poll (gate : Gate) (id : AskerId) :
    ∃ letters, Posting gate id letters ∧ gate.Posts (gate.poll id) letters := by
  cases known : gate.askers[id]? with
  | none =>
    simp only [Gate.poll, known]
    exact ⟨[], .nothing, Posts.refl gate⟩
  | some asker =>
    have left : gate.Posts (gate.leaveLine id) [] := posts_of_same rfl rfl rfl
    cases stage : asker.stage with
    | unheard =>
      simp only [Gate.poll, known, stage]
      by_cases admitted : gate.admits asker
      · exact posts_begin known admitted
      · refine ⟨[], .nothing, ?_⟩
        rw [begin_eq]
        split
        · exact posts_of_same rfl rfl rfl
        split
        · exact posts_of_same rfl rfl rfl
        next isOpen absent =>
        exact absurd ⟨stage, Bool.eq_false_iff.mpr isOpen, Bool.eq_false_iff.mpr absent⟩ admitted
    | inLine number =>
      refine ⟨[], .nothing, ?_⟩
      simp only [Gate.poll, known, stage, finishEarly_eq_leave]
      split
      · exact left.trans (posts_leave _ id asker number _)
      · split
        · exact left.trans (posts_leave _ id asker number _)
        · exact Posts.refl gate
    | granted number => exact posts_granted known stage
    | listening number =>
      simp only [Gate.poll, known, stage]
      exact ⟨[], .nothing, posts_listen gate id asker number⟩
    | ended outcome =>
      simp only [Gate.poll, known, stage]
      exact ⟨[], .nothing, Posts.refl gate⟩

theorem posts_drop (gate : Gate) (id : AskerId) : gate.Posts (gate.drop id) [] := by
  have left : gate.Posts (gate.leaveLine id) [] := posts_of_same rfl rfl rfl
  unfold Gate.drop
  split
  · exact Posts.refl gate
  · split
    · exact posts_of_same rfl rfl rfl
    · exact left.trans (posts_leave _ id _ _ _)
    · exact (posts_releaseSlot gate).trans (posts_leave _ id _ _ _)
    · exact posts_leave gate id _ _ _
    · exact Posts.refl gate

/-! ### Moves -/

/-- The letter that a move posts. -/
def posted? (gate : Gate) : Move → Option Letter
  | .poll id => (gate.poll id).mailbox[gate.mailbox.length]?
  | _ => none

theorem posted?_poll {letters : List Letter} (posting : Posting gate id letters)
    (posts : gate.Posts (gate.poll id) letters) :
    (gate.posted? (.poll id)).toList = letters := by
  rw [posted?, posts.mailbox, List.getElem?_append_right (Nat.le_refl _), Nat.sub_self]
  cases posting <;> rfl

/-- A letter is posted by an asker that has a slot in hand or registers, and does not look for one
afterwards. -/
theorem origin_of_posted? {move : Move} {letter : Letter}
    (posts : gate.posted? move = some letter) :
    ∃ id asker, move = .poll id ∧ gate.askers[id]? = some asker ∧
      (asker.stage = .granted letter.number ∨ letter.number = gate.registered + 1) ∧
      (gate.destination asker).seeking? = none ∧ letter ∈ (gate.step move).mailbox := by
  cases move with
  | poll id =>
    obtain ⟨letters, posting, isPosted⟩ := posts_poll gate id
    have isLetter := posted?_poll posting isPosted
    rw [posts] at isLetter
    cases posting with
    | nothing => cases isLetter
    | letter asker number known numbered arrived =>
      obtain rfl := (List.cons.inj isLetter).1
      refine ⟨id, asker, rfl, known, numbered.imp_right And.right, arrived, ?_⟩
      rw [Gate.step, isPosted.mailbox]
      exact List.mem_append_right _ (List.mem_singleton_self _)
  | _ => cases posts

/-- A move that takes nothing out of the mailbox posts its letter behind all others. -/
theorem Orderly.posts_step (orderly : gate.Orderly []) {move : Move}
    (elsewhere : move.isReading = false) :
    gate.Posts (gate.step move) (gate.posted? move).toList := by
  cases move with
  | poll id =>
    obtain ⟨letters, posting, posts⟩ := posts_poll gate id
    rw [posted?_poll posting posts]
    exact posts
  | drop id => exact posts_drop gate id
  | submit answer =>
    rw [Gate.step]
    rcases orderly.refused_or_taken answer with ⟨_, same⟩ | ⟨exchange, -, -, same⟩
    · rw [same]
      exact Posts.refl gate
    · obtain ⟨_, _, _, _, frame⟩ := answered_frame gate exchange answer
      rw [same, frame]
      exact posts_of_subset rfl rfl (List.filter_subset_self _)
  | takeSeat =>
    obtain ⟨_, same⟩ := takeSeat_frame gate
    rw [Gate.step, same]
    exact posts_of_same rfl rfl rfl
  | shutdown =>
    obtain ⟨_, _, _, _, _, fewer, same⟩ := shutdown_frame gate
    rw [Gate.step, same]
    exact posts_of_subset rfl rfl fewer.subset
  | dropSeat => cases elsewhere
  | tryNext => cases elsewhere
  | drain => cases elsewhere
  | pollNext => cases elsewhere
  | pollStream => cases elsewhere
  | _ => exact posts_of_same rfl rfl rfl

/-- A move passes letters at the front of the mailbox, some of which are read, and posts letters
behind. An exchange without a slot has had none before, or is new, or was read. -/
structure Carries (gate later : Gate) (posted read : List Letter) : Prop where
  mailbox : ∃ passed, gate.mailbox ++ posted = passed ++ later.mailbox ∧ read.Sublist passed
  registered : gate.registered ≤ later.registered
  slotless : ∀ exchange ∈ later.pending, exchange.holdsSlot = false →
    exchange ∈ gate.pending ∨ gate.registered < exchange.number ∨
      exchange.number ∈ read.map Letter.number

theorem Posts.carries {later : Gate} {letters : List Letter} (posts : gate.Posts later letters) :
    gate.Carries later letters [] where
  mailbox := ⟨[], posts.mailbox.symm, List.nil_sublist _⟩
  registered := posts.registered
  slotless := fun exchange member slotless =>
    (posts.slotless exchange member slotless).imp_right Or.inl

theorem Reads.carries {later : Gate} {letters : List Letter} (reads : gate.Reads later letters)
    (registered : later.registered = gate.registered) : gate.Carries later [] letters where
  mailbox := by
    obtain ⟨passed, isMailbox, fewer⟩ := reads.mailbox
    exact ⟨passed, by rw [List.append_nil, isMailbox], fewer⟩
  registered := Nat.le_of_eq registered.symm
  slotless := by
    intro exchange member _
    rw [reads.pending] at member
    obtain ⟨original, isOriginal, rfl⟩ := List.mem_map.mp member
    by_cases isRead : original.number ∈ letters.map Letter.number
    · exact Or.inr (Or.inr (by rw [Exchange.number_readWith]; exact isRead))
    · exact Or.inl (by rw [Exchange.readWith, if_neg isRead]; exact isOriginal)

theorem Orderly.carries_step (orderly : gate.Orderly []) (move : Move) :
    gate.Carries (gate.step move) (gate.posted? move).toList (gate.yielded move) := by
  cases isReading : move.isReading with
  | false =>
    rw [yielded_of_not_isReading isReading]
    exact (orderly.posts_step isReading).carries
  | true =>
    have nothing : gate.posted? move = none := by cases move <;> first | rfl | cases isReading
    rw [nothing]
    by_cases isDrop : move = .dropSeat
    · subst isDrop
      exact ⟨⟨gate.mailbox, rfl, List.nil_sublist _⟩, Nat.le_refl _,
        fun _ member _ => Or.inl member⟩
    · refine (orderly.reads_step move isReading isDrop).2.carries ?_
      obtain ⟨first, drained, next, streamed⟩ := touches_reading gate
      cases move with
      | dropSeat => exact absurd rfl isDrop
      | tryNext => exact first.registered
      | drain => exact drained.registered
      | pollNext => exact next.registered
      | pollStream => exact streamed.registered
      | _ => cases isReading

/-- Looking for a slot begins with the registration. -/
theorem Passage.seeking {move : Move} {after : Asker} (passage : Passage gate id asker move after)
    (seeks : after.stage.seeking? = some number) :
    asker.stage.seeking? = some number ∨
      move = .poll id ∧ number = gate.registered + 1 := by
  cases passage with
  | stays => exact Or.inl seeks
  | handed => exact Or.inl (asker.seeking?_handed.symm.trans seeks)
  | turned =>
    cases stage : asker.stage with
    | unheard =>
      simp only [Gate.destination, stage] at seeks
      split at seeks
      · cases seeks
      split at seeks
      · cases seeks
      split at seeks
      · cases seeks
      split at seeks
      · rw [seeking?_afterGrant] at seeks
        cases seeks
      · exact Or.inr ⟨rfl, (Option.some_inj.mp seeks).symm⟩
    | inLine waited =>
      simp only [Gate.destination, stage] at seeks
      split at seeks
      · cases seeks
      · split at seeks
        · cases seeks
        · exact Or.inl seeks
    | granted waited =>
      simp only [Gate.destination, stage] at seeks
      split at seeks
      · cases seeks
      · split at seeks
        · cases seeks
        · rw [seeking?_afterGrant] at seeks
          cases seeks
    | listening waited =>
      simp only [Gate.destination, stage, seeking?_afterListening] at seeks
      cases seeks
    | ended outcome =>
      simp only [Gate.destination, stage] at seeks
      cases seeks
  | dropped =>
    unfold Asker.abandoned at seeks
    simp only at seeks
    split at seeks <;> cases seeks
  | answered => exact Or.inl seeks

end Gate

end OperatorDesk
