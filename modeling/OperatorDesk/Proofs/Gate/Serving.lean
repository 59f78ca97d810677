/-
This file follows the line for slots. Whoever is handed a slot has stood at the head of the line
and is woken, in the order of the line; those who are left stand behind in the order they had, and
an asker that gets in line stands last. So slots are handed out in the order of the numbers under
which the askers were registered.
-/

import OperatorDesk.Proofs.Gate.Posting

namespace OperatorDesk

/-- The asker that is woken. -/
def Wake.asker? : Wake → Option AskerId
  | .asker id => some id
  | .reader => none

namespace Gate

variable {gate : Gate} {id : AskerId} {busy : List AskerId}

theorem stage?_of_known {asker : Asker} {stage : Stage} (known : gate.askers[id]? = some asker)
    (isStage : asker.stage = stage) : gate.stage? id = some stage := by
  rw [stage?, known, Option.map_some, isStage]

/-! ### Who is served -/

/-- Between the two gates only the busy did something themselves. Slots were handed to the next in
line, who were woken in this order; the others stand behind them, and a newcomer last. -/
structure Serves (gate later : Gate) (busy next : List AskerId) (newcomer : Option AskerId) :
    Prop where
  line : (next ++ later.line).Sublist (gate.line ++ newcomer.toList)
  others : ∀ id ∉ busy, later.askers[id]? =
    if id ∈ next then (gate.askers[id]?).map Asker.handed else gate.askers[id]?
  woken : ∃ woken, later.woken = gate.woken ++ woken ∧ woken.filterMap Wake.asker? = next

theorem Serves.trans {first second third : Gate} {next more : List AskerId}
    {newcomer : Option AskerId} (left : first.Serves second busy next none)
    (right : second.Serves third busy more newcomer) :
    first.Serves third busy (next ++ more) newcomer := by
  refine ⟨?_, ?_, ?_⟩
  · have line := left.line
    rw [Option.toList_none, List.append_nil] at line
    rw [List.append_assoc]
    refine ((List.Sublist.refl next).append right.line).trans ?_
    rw [← List.append_assoc]
    exact line.append (List.Sublist.refl _)
  · intro id idle
    have twice : Asker.handed ∘ Asker.handed = Asker.handed := funext Asker.handed_handed
    rw [right.others id idle, left.others id idle]
    by_cases before : id ∈ next <;> by_cases after : id ∈ more <;>
      simp [before, after, Option.map_map, twice]
  · obtain ⟨before, isSecond, isNext⟩ := left.woken
    obtain ⟨after, isThird, isMore⟩ := right.woken
    refine ⟨before ++ after, ?_, ?_⟩
    · rw [isThird, isSecond, List.append_assoc]
    · rw [List.filterMap_append, isNext, isMore]

/-- What hands out no slot and wakes no asker. -/
theorem serves_nobody {later : Gate} (line : later.line.Sublist gate.line)
    (others : ∀ id ∉ busy, later.askers[id]? = gate.askers[id]?)
    (woken : later.woken = gate.woken) : gate.Serves later busy [] none where
  line := by
    rw [List.nil_append, Option.toList_none, List.append_nil]
    exact line
  others id idle := by
    rw [if_neg List.not_mem_nil]
    exact others id idle
  woken := ⟨[], by rw [woken, List.append_nil], rfl⟩

/-- Some were served, and nobody got in line. -/
def Advances (gate later : Gate) (busy : List AskerId) : Prop :=
  ∃ next, gate.Serves later busy next none

theorem Advances.trans {first second third : Gate} (left : first.Advances second busy)
    (right : second.Advances third busy) : first.Advances third busy := by
  obtain ⟨next, served⟩ := left
  obtain ⟨more, further⟩ := right
  exact ⟨next ++ more, served.trans further⟩

/-- The operations that change neither line nor askers nor wakes. -/
theorem advances_of_same {later : Gate} (busy : List AskerId) (line : later.line = gate.line)
    (askers : later.askers = gate.askers) (woken : later.woken = gate.woken) :
    gate.Advances later busy :=
  ⟨[], serves_nobody (by rw [line]) (fun _ _ => by rw [askers]) woken⟩

theorem Advances.refl (gate : Gate) (busy : List AskerId) : gate.Advances gate busy :=
  advances_of_same busy rfl rfl rfl

/-! ### Operations -/

theorem advances_releaseSlot (gate : Gate) (busy : List AskerId) :
    gate.Advances gate.releaseSlot busy := by
  cases isLine : gate.line with
  | nil =>
    rw [releaseSlot_of_nil isLine]
    exact advances_of_same busy rfl rfl rfl
  | cons next rest =>
    rw [releaseSlot_of_cons isLine]
    refine ⟨[next], ?_, fun other _ => ?_, [.asker next], rfl, rfl⟩
    · rw [isLine, Option.toList_none, List.append_nil]
      exact List.Sublist.refl _
    · rw [List.getElem?_modify]
      by_cases same : next = other <;> simp [same, Ne.symm]

theorem advances_releaseOf (gate : Gate) (exchange : Exchange) (busy : List AskerId) :
    gate.Advances (gate.releaseOf exchange) busy := by
  unfold releaseOf
  split
  · exact advances_releaseSlot gate busy
  · exact Advances.refl gate busy

theorem advances_updateAsker (gate : Gate) (isBusy : id ∈ busy) (change : Asker → Asker) :
    gate.Advances (gate.updateAsker id change) busy := by
  refine ⟨[], serves_nobody (List.Sublist.refl _) (fun other idle => ?_) rfl⟩
  exact askers_updateAsker_of_ne gate (fun same => idle (by rw [same]; exact isBusy)) change

theorem advances_leaveLine (gate : Gate) (id : AskerId) (busy : List AskerId) :
    gate.Advances (gate.leaveLine id) busy :=
  ⟨[], serves_nobody List.filter_sublist (fun _ _ => rfl) rfl⟩

theorem advances_post (gate : Gate) (number : Nat) (question : Question) (busy : List AskerId) :
    gate.Advances (gate.post number question) busy := by
  have posted : gate.Advances
      { gate with mailbox := gate.mailbox ++ [Letter.mk number question] } busy :=
    advances_of_same busy rfl rfl rfl
  refine posted.trans ?_
  unfold post wakeReader
  split
  · exact ⟨[], ⟨by simp [wake], fun _ _ => rfl, [.reader], rfl, rfl⟩⟩
  · exact Advances.refl _ busy

theorem advances_retract (gate : Gate) (questionId : String) (number : Nat)
    (busy : List AskerId) : gate.Advances (gate.retract questionId number).1 busy := by
  have removed : gate.Advances (gate.removePending questionId) busy :=
    advances_of_same busy rfl rfl rfl
  unfold retract
  split
  · split
    · exact removed.trans (advances_releaseOf _ _ busy)
    · exact Advances.refl gate busy
  · exact Advances.refl gate busy

theorem advances_accept (gate : Gate) (letter : Letter) (busy : List AskerId) :
    gate.Advances (gate.accept letter).1 busy := by
  have marked : gate.Advances (gate.markSlot letter.question.id false) busy :=
    advances_of_same busy rfl rfl rfl
  unfold accept
  split
  · split
    · exact marked.trans (advances_releaseOf _ _ busy)
    · exact Advances.refl gate busy
  · exact Advances.refl gate busy

/-! ### Turns -/

section Turns

variable (gate : Gate) (isBusy : id ∈ busy) (asker : Asker) (number : Nat)

include isBusy

theorem advances_leave (outcome : Outcome) :
    gate.Advances (gate.leave id asker number outcome) busy :=
  (advances_retract gate asker.question.id number busy).trans
    (advances_updateAsker _ isBusy _)

theorem advances_listen : gate.Advances (gate.listen id asker number) busy := by
  unfold listen
  simp only [finishEarly_eq_leave]
  split
  · exact advances_updateAsker gate isBusy _
  · split
    · split
      · exact advances_leave gate isBusy asker number _
      · exact advances_updateAsker gate isBusy _
    · exact advances_updateAsker gate isBusy _

theorem advances_useSlot : gate.Advances (gate.useSlot id asker number) busy := by
  have marked : gate.Advances (gate.markSlot asker.question.id true) busy :=
    advances_of_same busy rfl rfl rfl
  unfold useSlot
  split
  · simp only
    split
    · exact marked.trans (advances_leave _ isBusy asker number _)
    · exact (marked.trans (advances_post _ number asker.question busy)).trans
        (advances_listen _ isBusy asker number)
  · exact (advances_releaseSlot gate busy).trans (advances_listen _ isBusy asker number)

/-- An asker that looks for a slot gets in line if it finds none. -/
theorem serves_seekSlot :
    gate.Advances (gate.seekSlot id asker number) busy ∨
      gate.Serves (gate.seekSlot id asker number) busy [] (some id) := by
  unfold seekSlot
  split
  · have taken : gate.Advances { gate with free := gate.free - 1 } busy :=
      advances_of_same busy rfl rfl rfl
    exact Or.inl (taken.trans (advances_useSlot _ isBusy asker number))
  · refine Or.inr ⟨List.Sublist.refl _, fun other idle => ?_, [], ?_, rfl⟩
    · rw [if_neg List.not_mem_nil]
      exact askers_updateAsker_of_ne _ (fun same => idle (by rw [same]; exact isBusy)) _
    · exact (List.append_nil _).symm

end Turns

/-- A turn serves the next in line, or the asker gets in line in its first turn. -/
theorem serves_poll (gate : Gate) (id : AskerId) :
    gate.Advances (gate.poll id) [id] ∨
      gate.stage? id = some .unheard ∧ gate.Serves (gate.poll id) [id] [] (some id) := by
  have isBusy : id ∈ [id] := List.mem_singleton_self id
  have left := advances_leaveLine gate id [id]
  have released := advances_releaseSlot gate [id]
  cases known : gate.askers[id]? with
  | none =>
    simp only [Gate.poll, known]
    exact Or.inl (Advances.refl gate _)
  | some asker =>
    cases stage : asker.stage with
    | unheard =>
      have isUnheard := stage?_of_known known stage
      have enrolled : gate.Serves (gate.enroll id asker) [id] [] none := by
        refine serves_nobody (List.Sublist.refl _) (fun other idle => ?_) rfl
        exact askers_updateAsker_of_ne _ (fun same => idle (by rw [same]; exact isBusy)) _
      simp only [Gate.poll, known, stage, begin_eq, finishEarly_eq_leave]
      split
      · exact Or.inl (advances_updateAsker gate isBusy _)
      split
      · exact Or.inl (advances_updateAsker gate isBusy _)
      split
      · exact Or.inl (Advances.trans ⟨[], enrolled⟩ (advances_leave _ isBusy _ _ _))
      · rcases serves_seekSlot (gate.enroll id asker) isBusy (gate.bounded asker)
          (gate.registered + 1) with served | joined
        · exact Or.inl (Advances.trans ⟨[], enrolled⟩ served)
        · exact Or.inr ⟨isUnheard, enrolled.trans joined⟩
    | inLine number =>
      simp only [Gate.poll, known, stage, finishEarly_eq_leave]
      refine Or.inl ?_
      split
      · exact left.trans (advances_leave _ isBusy asker number _)
      · split
        · exact left.trans (advances_leave _ isBusy asker number _)
        · exact Advances.refl gate _
    | granted number =>
      simp only [Gate.poll, known, stage, finishEarly_eq_leave]
      refine Or.inl ?_
      split
      · exact released.trans (advances_leave _ isBusy asker number _)
      · split
        · exact released.trans (advances_leave _ isBusy asker number _)
        · exact advances_useSlot gate isBusy asker number
    | listening number =>
      simp only [Gate.poll, known, stage]
      exact Or.inl (advances_listen gate isBusy asker number)
    | ended outcome =>
      simp only [Gate.poll, known, stage]
      exact Or.inl (Advances.refl gate _)

theorem advances_drop (gate : Gate) (id : AskerId) : gate.Advances (gate.drop id) [id] := by
  have isBusy : id ∈ [id] := List.mem_singleton_self id
  unfold Gate.drop
  split
  · exact Advances.refl gate _
  · split
    · exact advances_updateAsker gate isBusy _
    · exact (advances_leaveLine gate id _).trans (advances_leave _ isBusy _ _ _)
    · exact (advances_releaseSlot gate _).trans (advances_leave _ isBusy _ _ _)
    · exact advances_leave gate isBusy _ _ _
    · exact Advances.refl gate _

theorem advances_reading (gate : Gate) :
    gate.Advances gate.tryNext.1 [] ∧ gate.Advances gate.drain.1 [] ∧
      gate.Advances gate.pollNext.1 [] ∧ gate.Advances gate.pollStream.1 [] := by
  refine kept_reading (fun later => gate.Advances later []) ?_ gate (Advances.refl gate [])
  intro later letter rest _ advances
  have shorter : later.Advances { later with mailbox := rest } [] :=
    advances_of_same [] rfl rfl rfl
  exact (advances.trans shorter).trans (advances_accept _ letter [])

/-! ### Moves -/

variable {move : Move} {asker : Asker} {number : Nat}

/-- What the line and those who were handed slots owe to a move: the next in line were served, and
woken in this order behind those who were told an answer, and a newcomer stands last. -/
structure Progress (gate later : Gate) (next : List AskerId) (newcomer : Option AskerId) :
    Prop where
  line : (next ++ later.line).Sublist (gate.line ++ newcomer.toList)
  granted : ∀ id number, later.stage? id = some (.granted number) →
    gate.stage? id = some (.granted number) ∨ id ∈ next ∧ gate.stage? id = some (.inLine number)
  newcomer : ∀ id ∈ newcomer, gate.stage? id = some .unheard
  woken : next ≠ [] → ∃ told woken, later.woken = gate.woken ++ woken ∧
    woken.filterMap Wake.asker? = told ++ next ∧
    ∀ id ∈ told, ∃ number, later.stage? id = some (.listening number)

theorem Serves.progress {later : Gate} {next : List AskerId} {newcomer : Option AskerId}
    (serves : gate.Serves later busy next newcomer)
    (ungranted : ∀ id ∈ busy, ∀ number, later.stage? id ≠ some (.granted number))
    (unheard : ∀ id ∈ newcomer, gate.stage? id = some .unheard) :
    gate.Progress later next newcomer := by
  refine ⟨serves.line, fun id number granted => ?_, unheard, fun _ => ?_⟩
  · have idle : id ∉ busy := fun isBusy => ungranted id isBusy number granted
    have after := serves.others id idle
    split at after
    · next isNext =>
      obtain ⟨asker, known, stage⟩ := Option.map_eq_some_iff.mp granted
      rw [after] at known
      obtain ⟨before, isBefore, rfl⟩ := Option.map_eq_some_iff.mp known
      rw [stage?, isBefore, Option.map_some]
      cases isStage : before.stage with
      | inLine waited =>
        rw [Asker.handed_of_inLine isStage] at stage
        cases stage
        exact Or.inr ⟨isNext, rfl⟩
      | _ =>
        rw [Asker.handed_of_ne fun _ inLine => by rw [isStage] at inLine; cases inLine] at stage
        rw [← isStage, stage]
        exact Or.inl rfl
    · rw [stage?, after] at granted
      exact Or.inl granted
  · obtain ⟨woken, same, isNext⟩ := serves.woken
    exact ⟨[], woken, same, isNext, fun _ member => absurd member List.not_mem_nil⟩

theorem Advances.progress {later : Gate} (advances : gate.Advances later busy)
    (ungranted : ∀ id ∈ busy, ∀ number, later.stage? id ≠ some (.granted number)) :
    ∃ next, gate.Progress later next none := by
  obtain ⟨next, serves⟩ := advances
  exact ⟨next, serves.progress ungranted fun _ nobody => absurd nobody (Option.not_mem_none _)⟩

/-- What changes no asker and puts nobody into the line. -/
theorem progress_of_same {later : Gate} (line : later.line.Sublist gate.line)
    (askers : later.askers = gate.askers) : gate.Progress later [] none where
  line := by
    rw [List.nil_append, Option.toList_none, List.append_nil]
    exact line
  granted id number granted := by
    rw [stage?, askers] at granted
    exact Or.inl granted
  newcomer _ nobody := absurd nobody (Option.not_mem_none _)
  woken nobody := absurd rfl nobody

theorem Orderly.progress_poll (orderly : gate.Orderly []) (id : AskerId) :
    ∃ next newcomer, gate.Progress (gate.poll id) next newcomer := by
  have ungranted : ∀ other ∈ [id], ∀ number, (gate.poll id).stage? other ≠
      some (.granted number) := by
    intro other member number granted
    rw [List.mem_singleton.mp member] at granted
    cases known : gate.askers[id]? with
    | none =>
      have same : gate.poll id = gate := by simp only [Gate.poll, known]
      rw [same, stage?, known] at granted
      cases granted
    | some asker =>
      rw [stage?, orderly.askers_poll known, Option.map_some, Option.some_inj] at granted
      have halted := (gate.halt_destination asker).isGranted_eq_false
      rw [show gate.destination asker = .granted number from granted] at halted
      cases halted
  rcases serves_poll gate id with advances | ⟨unheard, serves⟩
  · obtain ⟨next, progress⟩ := advances.progress ungranted
    exact ⟨next, none, progress⟩
  · refine ⟨[], some id, serves.progress ungranted fun other isNewcomer => ?_⟩
    rw [← Option.some_inj.mp isNewcomer]
    exact unheard

theorem Orderly.progress_drop (orderly : gate.Orderly []) (id : AskerId) :
    ∃ next, gate.Progress (gate.drop id) next none := by
  refine (advances_drop gate id).progress fun other member number granted => ?_
  rw [List.mem_singleton.mp member] at granted
  cases known : gate.askers[id]? with
  | none =>
    have same : gate.drop id = gate := by simp only [Gate.drop, known]
    rw [same, stage?, known] at granted
    cases granted
  | some asker =>
    rw [stage?, orderly.askers_drop known, Option.map_some, Option.some_inj] at granted
    simp only at granted
    split at granted <;> cases granted

theorem stage?_deliver (gate : Gate) (id other : AskerId) (answer : Answer) :
    (gate.deliver id answer).stage? other = gate.stage? other := by
  obtain ⟨woken, same⟩ := deliver_frame gate id answer
  rw [same, stage?, stage?, updateAsker, List.getElem?_modify]
  cases gate.askers[other]? with
  | none => rfl
  | some asker =>
    simp only [Option.map_eq_map, Option.map_some]
    split <;> rfl

/-- Whoever listens when an answer is delivered is told. -/
theorem woken_deliver (gate : Gate) (id : AskerId) (answer : Answer) :
    ∃ told : List AskerId, (gate.deliver id answer).woken = gate.woken ++ told.map Wake.asker ∧
      (∀ other ∈ told, other = id ∧ ∃ number, gate.stage? id = some (.listening number)) ∧
      ∀ number, gate.stage? id = some (.listening number) → id ∈ told := by
  have stage : (gate.updateAsker id ({ · with reply := some answer })).stage? id =
      gate.stage? id := by
    rw [stage?, stage?, updateAsker, List.getElem?_modify_eq]
    cases gate.askers[id]? <;> rfl
  simp only [deliver, stage]
  split
  · next number listening =>
    exact ⟨[id], rfl, fun other member => ⟨List.mem_singleton.mp member, number, listening⟩,
      fun _ _ => List.mem_singleton_self id⟩
  · next elsewhere =>
    exact ⟨[], (List.append_nil _).symm, fun _ member => absurd member List.not_mem_nil,
      fun number listening => absurd listening (elsewhere number)⟩

/-- An answer that is taken is told to its asker first, and then its slot goes to the next. -/
theorem Orderly.progress_answered (orderly : gate.Orderly []) {exchange : Exchange}
    (member : exchange ∈ gate.pending) (answer : Answer) :
    ∃ next, gate.Progress (gate.answered exchange answer) next none := by
  obtain ⟨told, isTold, listening, -⟩ :=
    woken_deliver (gate.removePending exchange.question.id) exchange.asker answer
  obtain ⟨_, same⟩ := deliver_frame (gate.removePending exchange.question.id) exchange.asker answer
  obtain ⟨next, serves⟩ := advances_releaseOf
    ((gate.removePending exchange.question.id).deliver exchange.asker answer) exchange []
  have sameStage : ∀ id : AskerId, ((gate.removePending exchange.question.id).deliver
      exchange.asker answer).stage? id = gate.stage? id := fun id =>
    stage?_deliver (gate.removePending exchange.question.id) exchange.asker id answer
  have sameLine : ((gate.removePending exchange.question.id).deliver exchange.asker answer).line =
      gate.line := by rw [same]; rfl
  have after := serves.progress (fun _ nobody => absurd nobody List.not_mem_nil)
    fun _ nobody => absurd nobody (Option.not_mem_none _)
  refine ⟨next, ?_, fun id number granted => ?_,
    fun _ nobody => absurd nobody (Option.not_mem_none _), fun _ => ?_⟩
  · rw [← sameLine]
    exact after.line
  · rw [← sameStage id]
    exact after.granted id number granted
  · obtain ⟨woken, isWoken, isNext⟩ := serves.woken
    have delivered : ((gate.removePending exchange.question.id).deliver exchange.asker
        answer).woken = gate.woken ++ told.map Wake.asker := isTold
    refine ⟨told, told.map Wake.asker ++ woken, ?_, ?_, fun id isMember => ?_⟩
    · rw [← List.append_assoc, ← delivered]
      exact isWoken
    · rw [List.filterMap_append, isNext, List.filterMap_map]
      exact congrArg (· ++ next) List.filterMap_some
    · obtain ⟨isOwn, number, stage⟩ := listening id isMember
      obtain ⟨-, -, asker, known, -, heard⟩ := orderly.answered member answer
      have wasListening : gate.stage? exchange.asker = some (.listening number) := stage
      rw [stage?, known] at wasListening
      rw [isOwn, stage?, heard]
      exact ⟨number, wasListening⟩

/-- Every move serves the next in line. -/
theorem Orderly.progress_step (orderly : gate.Orderly []) (move : Move) :
    ∃ next newcomer, gate.Progress (gate.step move) next newcomer := by
  obtain ⟨first, drained, next, streamed⟩ := advances_reading gate
  have read : ∀ {later : Gate}, gate.Advances later [] →
      ∃ next newcomer, gate.Progress later next newcomer := by
    intro later advances
    obtain ⟨next, progress⟩ := advances.progress fun _ member => absurd member List.not_mem_nil
    exact ⟨next, none, progress⟩
  cases move with
  | ask context question =>
    refine ⟨[], none, ?_, fun id number granted => ?_,
      fun _ nobody => absurd nobody (Option.not_mem_none _),
      fun nobody => absurd rfl nobody⟩
    · rw [List.nil_append, Option.toList_none, List.append_nil]
      exact List.Sublist.refl _
    · obtain ⟨asker, known, stage⟩ := Option.map_eq_some_iff.mp granted
      rcases askers_ask_cases known with before | ⟨unheard, -⟩
      · exact Or.inl (stage?_of_known before stage)
      · rw [unheard] at stage
        cases stage
  | poll id => exact orderly.progress_poll id
  | drop id =>
    obtain ⟨next, progress⟩ := orderly.progress_drop id
    exact ⟨next, none, progress⟩
  | submit answer =>
    rw [Gate.step]
    rcases orderly.refused_or_taken answer with ⟨_, same⟩ | ⟨exchange, found, -, same⟩
    · rw [same]
      exact ⟨[], none, progress_of_same (List.Sublist.refl _) rfl⟩
    · rw [same]
      obtain ⟨next, progress⟩ := orderly.progress_answered (mem_of_find? found) answer
      exact ⟨next, none, progress⟩
  | takeSeat =>
    obtain ⟨_, same⟩ := takeSeat_frame gate
    rw [Gate.step, same]
    exact ⟨[], none, progress_of_same (List.Sublist.refl _) rfl⟩
  | tryNext => exact read first
  | drain => exact read drained
  | pollNext => exact read next
  | pollStream => exact read streamed
  | shutdown =>
    refine ⟨[], none, progress_of_same ?_ ?_⟩
    · rw [Gate.step, Gate.shutdown]
      split
      · exact List.Sublist.refl _
      · exact List.nil_sublist _
    · rw [Gate.step, Gate.shutdown]
      split <;> rfl
  | _ => exact ⟨[], none, progress_of_same (List.Sublist.refl _) rfl⟩

end Gate

end OperatorDesk
