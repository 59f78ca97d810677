/-
This file says when a question overtakes another on its way to the reader. Letters are read in the
order in which they were posted, and slots are handed out in the order in which the questions were
registered. What is left is the time between the handing over of a slot and the turn in which it
is used: whoever posts a letter in that time gets ahead of the asker that has the slot in hand.
-/

import OperatorDesk.Proofs.Gate.Numbering
import OperatorDesk.Proofs.Gate.Stream

namespace OperatorDesk.Gate

variable {gate : Gate} {id : AskerId} {asker : Asker} {move : Move} {number : Nat}

/-! ### When letters are posted -/

/-- While no slot is free, a first turn posts nothing. -/
theorem posts_begin_of_exhausted (exhausted : gate.free = 0) (id : AskerId) (asker : Asker) :
    gate.Posts (gate.begin id asker) [] := by
  have enrolled := posts_enroll gate id asker
  have noneFree : ¬0 < (gate.enroll id asker).free := by
    show ¬0 < gate.free
    rw [exhausted]
    exact Nat.lt_irrefl 0
  rw [begin_eq]
  split
  · exact posts_of_same rfl rfl rfl
  split
  · exact posts_of_same rfl rfl rfl
  split
  · rw [finishEarly_eq_leave]
    exact enrolled.trans (posts_leave _ id _ _ _)
  · rw [Gate.seekSlot, if_neg noneFree]
    exact enrolled.trans (posts_of_same rfl rfl rfl)

/-- A turn posts nothing at a closed gate. -/
theorem Orderly.posts_poll_of_closed (orderly : gate.Orderly []) (isClosed : gate.closed = true)
    (id : AskerId) : gate.Posts (gate.poll id) [] := by
  have told : gate.signalled = true := orderly.closing.told.trans isClosed
  have left : gate.Posts (gate.leaveLine id) [] := posts_of_same rfl rfl rfl
  unfold Gate.poll
  split
  · exact Posts.refl gate
  · split
    · rw [begin_eq, if_pos isClosed]
      exact posts_of_same rfl rfl rfl
    · simp only [finishEarly_eq_leave, told, if_true]
      split <;> exact left.trans (posts_leave _ id _ _ _)
    · simp only [finishEarly_eq_leave, told, if_true]
      split <;> exact (posts_releaseSlot gate).trans (posts_leave _ id _ _ _)
    · exact posts_listen gate id _ _
    · exact Posts.refl gate

theorem posted?_of_posts_nothing (posts : gate.Posts (gate.poll id) []) :
    gate.posted? (.poll id) = none :=
  Option.toList_eq_nil_iff.mp (posted?_poll .nothing posts)

/-- A letter is posted at an open gate, by an asker that has a slot in hand or finds one free when
it is registered. -/
theorem Orderly.cause_of_posted? (orderly : gate.Orderly []) {letter : Letter}
    (posts : gate.posted? move = some letter) :
    gate.closed = false ∧ ∃ id asker, move = .poll id ∧ gate.askers[id]? = some asker ∧
      (asker.stage = .granted letter.number ∨
        asker.stage = .unheard ∧ 0 < gate.free ∧ letter.number = gate.registered + 1) := by
  cases move with
  | poll id =>
    have posted : ¬gate.Posts (gate.poll id) [] := by
      intro nothing
      rw [posted?_of_posts_nothing nothing] at posts
      cases posts
    obtain ⟨letters, posting, isPosted⟩ := posts_poll gate id
    have isLetter := posted?_poll posting isPosted
    rw [posts] at isLetter
    cases posting with
    | nothing => cases isLetter
    | letter asker number known numbered _ =>
      obtain rfl := (List.cons.inj isLetter).1
      have stillOpen : gate.closed = false :=
        Bool.eq_false_iff.mpr fun isClosed => posted (orderly.posts_poll_of_closed isClosed id)
      refine ⟨stillOpen, id, asker, rfl, known, numbered.imp_right fun ⟨admitted, isNext⟩ =>
        ⟨admitted.1, Nat.pos_of_ne_zero fun exhausted => posted ?_, isNext⟩⟩
      have isFirst : gate.poll id = gate.begin id asker := by
        simp only [Gate.poll, known, admitted.1]
      rw [isFirst]
      exact posts_begin_of_exhausted exhausted id asker
  | _ => cases posts

section OwnTurn

variable {letter : Letter}

/-- Whoever has a slot in hand posts its own letter. -/
theorem Orderly.number_of_own (orderly : gate.Orderly [])
    (granted : gate.stage? id = some (.granted number))
    (posts : gate.posted? (.poll id) = some letter) : letter.number = number := by
  obtain ⟨-, poster, asker, same, known, cause⟩ := orderly.cause_of_posted? posts
  obtain rfl := Move.poll.inj same
  rw [stage?, known, Option.map_some, Option.some_inj] at granted
  rcases cause with isGranted | ⟨unheard, -⟩
  · exact Stage.granted.inj (isGranted.symm.trans granted)
  · rw [unheard] at granted
    cases granted

/-- Whoever precedes a number posts no letter with that number or a greater one. -/
theorem Orderly.number_lt_of_precedes (orderly : gate.Orderly [])
    (precedes : gate.Precedes id number)
    (posts : gate.posted? (.poll id) = some letter) : letter.number < number := by
  obtain ⟨asker, known, heard, before⟩ := precedes
  obtain ⟨-, poster, posting, same, isPoster, cause⟩ := orderly.cause_of_posted? posts
  obtain rfl := Move.poll.inj same
  obtain rfl := Option.some_inj.mp (isPoster.symm.trans known)
  rcases cause with isGranted | ⟨unheard, -⟩
  · exact before letter.number (by rw [isGranted]; rfl)
  · exact absurd unheard heard

end OwnTurn

/-! ### Pairs in a list -/

section Pairs

variable {Item : Type} {items before after : List Item} {left right : Item}

theorem pair_sublist_or (isLeft : left ∈ items) (isRight : right ∈ items)
    (different : left ≠ right) : [left, right].Sublist items ∨ [right, left].Sublist items := by
  obtain ⟨before, after, rfl⟩ := List.append_of_mem isLeft
  rcases List.mem_append.mp isRight with earlier | later
  · exact Or.inr ((List.singleton_sublist.mpr earlier).append
      (List.singleton_sublist.mpr List.mem_cons_self))
  · have behind := (List.mem_cons.mp later).resolve_left different.symm
    exact Or.inl (((List.singleton_sublist.mpr behind).cons_cons left).trans
      (List.sublist_append_right before _))

theorem mem_of_pair_sublist (once : (before ++ right :: after).Nodup)
    (pair : [left, right].Sublist (before ++ right :: after)) : left ∈ before := by
  obtain ⟨first, second, same, isFirst, isSecond⟩ := List.sublist_append_iff.mp pair
  obtain ⟨-, behind, apart⟩ := List.nodup_append.mp once
  cases first with
  | cons head rest =>
    have isHead : left = head := (List.cons.inj same).1
    exact isFirst.subset (isHead ▸ List.mem_cons_self)
  | nil =>
    rw [List.nil_append] at same
    subst same
    cases isSecond with
    | cons _ later =>
      exact absurd (later.subset (List.mem_cons_of_mem left List.mem_cons_self))
        (List.nodup_cons.mp behind).1
    | cons_cons _ later =>
      exact absurd (List.singleton_sublist.mp later) (List.nodup_cons.mp behind).1

theorem not_pair_sublist (once : items.Nodup) (pair : [left, right].Sublist items) :
    ¬[right, left].Sublist items := by
  intro backwards
  obtain ⟨before, after, rfl⟩ :=
    List.append_of_mem (pair.subset (List.mem_cons_of_mem left List.mem_cons_self))
  obtain ⟨first, between, rfl⟩ := List.append_of_mem (mem_of_pair_sublist once pair)
  rw [List.append_assoc, List.cons_append] at once backwards
  have isFirst := mem_of_pair_sublist once backwards
  have isLater : right ∈ left :: (between ++ right :: after) :=
    List.mem_cons_of_mem left (List.mem_append_right between List.mem_cons_self)
  exact (List.nodup_append.mp once).2.2 right isFirst right isLater rfl

/-- A sublist keeps the order of its members. -/
theorem pair_sublist_iff {fewer : List Item} (once : items.Nodup) (sublist : fewer.Sublist items)
    (isLeft : left ∈ fewer) (isRight : right ∈ fewer) (different : left ≠ right) :
    [left, right].Sublist fewer ↔ [left, right].Sublist items :=
  ⟨fun pair => pair.trans sublist, fun pair =>
    (pair_sublist_or isLeft isRight different).resolve_right fun backwards =>
      not_pair_sublist once pair (backwards.trans sublist)⟩

end Pairs

/-! ### The order of the letters -/

theorem mem_observed {Fact : Type} {observe : Gate → Move → Option Fact} {fact : Fact}
    (gate : Gate) {moves : List Move} (isObserved : fact ∈ observed observe gate moves) :
    ∃ early move late, moves = early ++ move :: late ∧
      observe (gate.run early) move = some fact := by
  induction moves generalizing gate with
  | nil => cases isObserved
  | cons move rest inductionHypothesis =>
    rcases List.mem_append.mp isObserved with isFirst | isLater
    · exact ⟨[], move, rest, rfl, Option.mem_toList.mp isFirst⟩
    · obtain ⟨early, next, late, rfl, same⟩ := inductionHypothesis (gate.step move) isLater
      exact ⟨move :: early, next, late, rfl, same⟩

theorem Orderly.registered_le_run (orderly : gate.Orderly []) (moves : List Move) :
    gate.registered ≤ (gate.run moves).registered := by
  refine run_invariant (fun _ later => gate.registered ≤ later.registered) gate (Nat.le_refl _) ?_
    moves
  exact fun before move bound =>
    Nat.le_trans bound ((orderly.run before).1.carries_step move).registered

/-- Whoever looks for a slot under an old number has looked for it before. -/
theorem Orderly.seeking_before (orderly : gate.Orderly []) (old : number ≤ gate.registered)
    (moves : List Move) :
    ∀ later, (gate.run moves).askers[id]? = some later → later.stage.seeking? = some number →
      ∃ asker, gate.askers[id]? = some asker ∧ asker.stage.seeking? = some number := by
  refine run_invariant (fun _ current => ∀ later, current.askers[id]? = some later →
    later.stage.seeking? = some number → ∃ asker, gate.askers[id]? = some asker ∧
      asker.stage.seeking? = some number) gate (fun later known seeks => ⟨later, known, seeks⟩) ?_
    moves
  intro before move known later isLater seeks
  have ordered := (orderly.run before).1
  rcases ordered.arrival_or_passage isLater with ⟨_, _, -, -, rfl⟩ | ⟨asker, isAsker, passage⟩
  · cases seeks
  · rcases passage.seeking seeks with sought | ⟨-, isNew⟩
    · exact known asker isAsker sought
    · have bound := orderly.registered_le_run before
      omega

/-- The second letter is posted while an asker has a slot in hand under the number of the first,
and has not had its turn since. -/
def Overtakes (gate : Gate) (moves : List Move) (first second : Letter) : Prop :=
  ∃ early move late, moves = early ++ move :: late ∧
    (gate.run early).posted? move = some second ∧
      ∃ id, (gate.run early).stage? id = some (.granted first.number)

section Order

variable {settings : GateSettings} {moves : List Move} {first second : Letter}

theorem postings_split {gate : Gate} {early late : List Move} {letter : Letter}
    (posts : (gate.run early).posted? move = some letter) :
    gate.postings (early ++ move :: late) =
      gate.postings early ++ letter :: ((gate.run early).step move).postings late := by
  rw [postings, observed_append, observed, posts]
  rfl

theorem nodup_postings (settings : GateSettings) (moves : List Move) :
    ((new settings).postings moves).Nodup :=
  (mailed_run settings moves).once.of_map _

/-- What is posted while the asker of an earlier question has its slot in hand is posted before
that question. -/
theorem not_pair_of_overtakes (overtakes : (new settings).Overtakes moves first second) :
    ¬[first, second].Sublist ((new settings).postings moves) := by
  obtain ⟨early, move, late, rfl, posts, id, granted⟩ := overtakes
  intro pair
  have once := nodup_postings settings (early ++ move :: late)
  rw [postings_split posts] at once pair
  have isEarly := mem_of_pair_sublist once pair
  obtain ⟨asker, known, stage⟩ := Option.map_eq_some_iff.mp granted
  exact (mailed_run settings early).unposted id asker first.number known (by rw [stage]; rfl)
    (List.mem_map_of_mem isEarly)

/-- A question that was registered but not posted yet, and is posted later, has an asker that looks
for a slot or has one in hand. -/
theorem seeking_of_postedLater {early late : List Move}
    (old : first.number ≤ ((new settings).run early).registered)
    (isLater : first ∈ ((new settings).run early).postings late) :
    ∃ id : AskerId, ∃ asker, ((new settings).run early).askers[id]? = some asker ∧
      asker.stage.seeking? = some first.number := by
  have orderly := orderly_run settings early
  obtain ⟨before, move, after, rfl, posts⟩ := mem_observed _ isLater
  have ordered := (orderly.run before).1
  obtain ⟨-, id, asker, -, known, granted | ⟨-, -, isNew⟩⟩ := ordered.cause_of_posted? posts
  · exact ⟨id, orderly.seeking_before old before asker known (by rw [granted]; rfl)⟩
  · have bound := orderly.registered_le_run before
    omega

/-- Of two questions that are posted, the one that was registered first is posted first, unless it
is overtaken. -/
theorem posted_in_order_iff (isFirst : first ∈ (new settings).postings moves)
    (isSecond : second ∈ (new settings).postings moves) (earlier : first.number < second.number) :
    [first, second].Sublist ((new settings).postings moves) ↔
      ¬(new settings).Overtakes moves first second := by
  refine ⟨fun pair overtakes => not_pair_of_overtakes overtakes pair, fun keepsPace => ?_⟩
  obtain ⟨early, move, late, rfl, posts⟩ := mem_observed _ isSecond
  have orderly := orderly_run settings early
  rw [postings_split posts] at isFirst ⊢
  rcases List.mem_append.mp isFirst with isEarly | isLate
  · exact (List.singleton_sublist.mpr isEarly).append
      (List.singleton_sublist.mpr List.mem_cons_self)
  refine absurd ⟨early, move, late, rfl, posts, ?_⟩ keepsPace
  obtain ⟨stillOpen, poster, posting, rfl, isPoster, cause⟩ := orderly.cause_of_posted? posts
  have different : first ≠ second := by
    rintro rfl
    exact Nat.lt_irrefl _ earlier
  have old : first.number ≤ ((new settings).run early).registered := by
    rcases cause with granted | ⟨-, -, isNew⟩
    · have bound := orderly.ownership.numbered poster posting second.number isPoster
        List.not_mem_nil (by rw [granted]; rfl)
      omega
    · omega
  have isLater : first ∈ ((new settings).run early).postings (.poll poster :: late) :=
    List.mem_append_right _ ((List.mem_cons.mp isLate).resolve_left different)
  obtain ⟨id, asker, known, seeks⟩ := seeking_of_postedLater old isLater
  cases stage : asker.stage with
  | granted number =>
    rw [stage] at seeks
    obtain rfl := Option.some_inj.mp seeks
    exact ⟨id, stage?_of_known known stage⟩
  | inLine number =>
    -- Nobody in line is overtaken: no slot is free, and slots are handed out by number.
    rw [stage] at seeks
    obtain rfl := Option.some_inj.mp seeks
    have stands := orderly.inLine.stands id asker _ known List.not_mem_nil stage stillOpen
    have waits := stage?_of_known known stage
    rcases cause with granted | ⟨-, isFree, -⟩
    · have inHand := stage?_of_known isPoster granted
      have less := (byNumber_run settings early).granted poster id stands _ _ inHand waits
      omega
    · rw [orderly.inLine.exhausted (List.ne_nil_of_mem stands)] at isFree
      exact absurd isFree (Nat.lt_irrefl 0)
  | _ =>
    rw [stage] at seeks
    cases seeks

/-- Of two questions that reach the reader, the one that was registered first reaches it first,
unless it is overtaken. -/
theorem delivered_in_order_iff (isFirst : first ∈ (new settings).deliveries moves)
    (isSecond : second ∈ (new settings).deliveries moves)
    (earlier : first.number < second.number) :
    [first, second].Sublist ((new settings).deliveries moves) ↔
      ¬(new settings).Overtakes moves first second := by
  have sublist := (mailed_run settings moves).delivered_sublist
  have different : first ≠ second := by
    rintro rfl
    exact Nat.lt_irrefl _ earlier
  rw [pair_sublist_iff (nodup_postings settings moves) sublist isFirst isSecond different]
  exact posted_in_order_iff (sublist.subset isFirst) (sublist.subset isSecond) earlier

end Order

/-! ### A single slot -/

/-- Where there is one slot, whoever has it in hand is the only one to post a letter. -/
theorem Orderly.number_of_single (orderly : gate.Orderly []) (single : gate.slots = 1)
    (granted : gate.stage? id = some (.granted number)) {letter : Letter}
    (posts : gate.posted? move = some letter) : letter.number = number := by
  obtain ⟨-, poster, posting, rfl, isPoster, cause⟩ := orderly.cause_of_posted? posts
  by_cases same : poster = id
  · subst same
    exact orderly.number_of_own granted posts
  -- Without the slot in hand there is none at the gate.
  obtain ⟨asker, known, stage⟩ := Option.map_eq_some_iff.mp granted
  have without := slots_setStage known .unheard
  rw [stage, single] at without
  have noSlot : (gate.setStage id .unheard).slots = 0 := by
    simpa [Stage.isGranted] using without
  rcases cause with isGranted | ⟨-, isFree, -⟩
  · have isOther : (gate.setStage id .unheard).askers[poster]? = some posting :=
      (askers_updateAsker_of_ne gate same _).trans isPoster
    have twice := slots_setStage isOther .unheard
    rw [isGranted, noSlot] at twice
    simp [Stage.isGranted] at twice
  · have atLeast : gate.free ≤ (gate.setStage id .unheard).slots := by
      rw [slots, Nat.add_assoc]
      exact Nat.le_add_right _ _
    omega

theorem not_overtakes_of_single {settings : GateSettings} {moves : List Move}
    {first second : Letter} (single : settings.capacity ≤ 1)
    (earlier : first.number < second.number) :
    ¬(new settings).Overtakes moves first second := by
  rintro ⟨early, move, late, -, posts, id, granted⟩
  have slots : ((new settings).run early).slots = 1 := by
    rw [slots_run]
    omega
  have same := (orderly_run settings early).number_of_single slots granted posts
  omega

/-! ### The list of what is pending -/

/-- What is pending is listed in the order of registration. -/
theorem Orderly.pendingQuestions_eq (orderly : gate.Orderly []) :
    gate.pendingQuestions = gate.pending.map Exchange.question := by
  refine congrArg (List.map Exchange.question) (List.mergeSort_of_pairwise ?_)
  exact orderly.registry.increasing.imp fun less => decide_eq_true (Nat.le_of_lt less)

end OperatorDesk.Gate
