/-
This file shows that nobody is left asleep. An asker rests if it has ended, or if it waits for a
slot or a reply and nothing calls it: then its turn changes nothing. A turn leaves its asker at
rest, and whatever else keeps an asker from resting wakes it: the slot that is handed to it, the
answer it listens for, the end of its context, and the closing. So once everybody who was started
or woken has had a turn, everybody rests.
-/

import OperatorDesk.Proofs.Gate.Serving

namespace OperatorDesk.Gate

variable {gate : Gate} {id : AskerId} {asker : Asker} {move : Move} {number : Nat}

/-- Something other than a slot or an answer calls the asker: its context has ended, or the gate is
closed. -/
def Calls (gate : Gate) (asker : Asker) : Prop :=
  asker.context.signal gate.used gate.served ≠ none ∨ gate.closed = true

/-! ### Where an asker rests -/

theorem destination_inLine_eq_iff (stage : asker.stage = .inLine number) :
    gate.destination asker = asker.stage ↔ ¬gate.Calls asker := by
  rw [Calls, Gate.destination, stage]
  cases asker.context.signal gate.used gate.served <;> cases gate.closed <;> simp

theorem destination_listening_eq_iff (stage : asker.stage = .listening number) :
    gate.destination asker = asker.stage ↔ asker.reply = none ∧ ¬gate.Calls asker := by
  rw [Calls, Gate.destination, stage]
  unfold afterListening
  cases asker.reply <;> cases asker.context.signal gate.used gate.served <;>
    cases gate.closed <;> simp

/-- The asker waits in line or listens, and nothing calls it. -/
inductive Rests (gate : Gate) (asker : Asker) : Prop where
  | inLine (number : Nat) (stage : asker.stage = .inLine number) (uncalled : ¬gate.Calls asker)
  | listening (number : Nat) (stage : asker.stage = .listening number)
    (silent : asker.reply = none) (uncalled : ¬gate.Calls asker)
  | ended (outcome : Outcome) (stage : asker.stage = .ended outcome)

theorem destination_eq_iff : gate.destination asker = asker.stage ↔ gate.Rests asker := by
  constructor
  · intro same
    have halt := gate.halt_destination asker
    rw [same] at halt
    cases stage : asker.stage with
    | unheard => exact absurd stage halt.ne_unheard
    | granted number =>
      have ungranted := halt.isGranted_eq_false
      rw [stage] at ungranted
      cases ungranted
    | inLine number => exact .inLine number stage ((destination_inLine_eq_iff stage).mp same)
    | listening number =>
      obtain ⟨silent, uncalled⟩ := (destination_listening_eq_iff stage).mp same
      exact .listening number stage silent uncalled
    | ended outcome => exact .ended outcome stage
  · intro rests
    cases rests with
    | inLine number stage uncalled => exact (destination_inLine_eq_iff stage).mpr uncalled
    | listening number stage silent uncalled =>
      exact (destination_listening_eq_iff stage).mpr ⟨silent, uncalled⟩
    | ended outcome stage => rw [Gate.destination, stage]

/-! ### What calls is heard -/

theorem mem_waitingWhere {condition : Asker → Bool} (known : gate.askers[id]? = some asker)
    (waits : asker.isWaiting = true) (holds : condition asker = true) :
    id ∈ gate.waitingWhere condition := by
  refine List.mem_filter.mpr ⟨List.mem_range.mpr (List.getElem?_eq_some_iff.mp known).1, ?_⟩
  rw [known, Option.any_some, waits, holds]
  rfl

/-- Whoever waits for the token that is used is woken. -/
theorem woken_cancel {token : Token} (known : gate.askers[id]? = some asker)
    (waits : asker.isWaiting = true) (uncalled : ¬gate.Calls asker)
    (calls : (gate.cancel token).Calls asker) : .asker id ∈ (gate.cancel token).woken := by
  have isToken : asker.context.token = some token := by
    by_contra different
    refine uncalled (calls.imp_left fun heard silent => heard ?_)
    obtain ⟨noToken, noTimer⟩ := Option.or_eq_none_iff.mp silent
    refine Option.or_eq_none_iff.mpr ⟨?_, noTimer⟩
    unfold Context.cancelSignal at noToken ⊢
    cases own : asker.context.token with
    | none => rfl
    | some mine =>
      rw [own] at noToken different
      have unused : mine ∉ gate.used := fun used => by simp [used] at noToken
      refine if_neg fun used => ?_
      rcases List.mem_cons.mp used with same | before
      · exact different (by rw [same])
      · exact unused before
  refine List.mem_append_right _ (List.mem_map_of_mem (mem_waitingWhere known waits ?_))
  rw [isToken]
  exact beq_self_eq_true _

theorem mem_dueTimers {deadline : Nat} (known : gate.askers[id]? = some asker)
    (waits : asker.isWaiting = true) (isDeadline : asker.context.deadline = some deadline)
    (unserved : gate.served < deadline) (reached : deadline ≤ gate.now) :
    (deadline, id) ∈ gate.dueTimers := by
  refine List.mem_filterMap.mpr ⟨id, mem_waitingWhere known waits rfl, ?_⟩
  rw [known, Option.bind_some, isDeadline]
  exact if_pos ⟨unserved, reached⟩

/-- Whoever waits for a timer that has become due is woken when timers are served. -/
theorem woken_serveTimers (known : gate.askers[id]? = some asker)
    (waits : asker.isWaiting = true) (uncalled : ¬gate.Calls asker)
    (calls : gate.serveTimers.Calls asker) : ∃ deadline, (deadline, id) ∈ gate.dueTimers := by
  obtain ⟨silent, isOpen⟩ := not_or.mp uncalled
  have heard := calls.resolve_right isOpen
  obtain ⟨noToken, noTimer⟩ := Option.or_eq_none_iff.mp (not_not.mp silent)
  have timer : asker.context.timerSignal gate.now ≠ none := fun noTimerNow =>
    heard (Option.or_eq_none_iff.mpr ⟨noToken, noTimerNow⟩)
  unfold Context.timerSignal at noTimer timer
  cases isDeadline : asker.context.deadline with
  | none => simp [isDeadline] at timer
  | some deadline =>
    have reached : deadline ≤ gate.now := by simpa [isDeadline] using timer
    have unserved : gate.served < deadline := by simpa [isDeadline] using noTimer
    exact ⟨deadline, mem_dueTimers known waits isDeadline unserved reached⟩

theorem Rests.uncalled (rests : gate.Rests asker)
    (unended : ∀ outcome, asker.stage ≠ .ended outcome) : ¬gate.Calls asker := by
  cases rests with
  | inLine _ _ uncalled => exact uncalled
  | listening _ _ _ uncalled => exact uncalled
  | ended outcome stage => exact absurd stage (unended outcome)

theorem Rests.isWaiting (rests : gate.Rests asker)
    (unended : ∀ outcome, asker.stage ≠ .ended outcome) : asker.isWaiting = true := by
  rw [Asker.isWaiting_eq_isSome]
  cases rests with
  | inLine _ stage => rw [stage]; rfl
  | listening _ stage => rw [stage]; rfl
  | ended outcome stage => exact absurd stage (unended outcome)

/-- Whoever waits is woken by the closing. -/
theorem Orderly.woken_shutdown (orderly : gate.Orderly [])
    (known : gate.askers[id]? = some asker) (rests : gate.Rests asker)
    (unended : ∀ outcome, asker.stage ≠ .ended outcome) :
    .asker id ∈ gate.shutdown.woken := by
  have stillOpen := (not_or.mp (rests.uncalled unended)).2
  have waits := rests.isWaiting unended
  rw [Gate.shutdown, if_neg stillOpen]
  cases rests with
  | inLine number stage =>
    have stands := orderly.inLine.stands id asker number known List.not_mem_nil stage
      (Bool.eq_false_iff.mpr stillOpen)
    refine List.mem_append_left _ (List.mem_append_left _ (List.mem_append_right _ ?_))
    exact List.mem_map_of_mem (List.mem_append_left _ stands)
  | listening number stage =>
    refine List.mem_append_right _ (List.mem_map_of_mem (mem_waitingWhere known waits ?_))
    rw [stage]
  | ended outcome stage => exact absurd stage (unended outcome)

/-- Whoever is called by a move is woken by it. -/
theorem Orderly.woken_of_calls (orderly : gate.Orderly [])
    (known : gate.askers[id]? = some asker) (rests : gate.Rests asker)
    (unended : ∀ outcome, asker.stage ≠ .ended outcome) (keeps : move ≠ .takeWakes)
    (calls : (gate.step move).Calls asker) : .asker id ∈ (gate.step move).woken := by
  have waits := rests.isWaiting unended
  have uncalled := rests.uncalled unended
  have same : (gate.step move).Calls asker = (_ ∨ _) :=
    congrArg (fun environment : Environment =>
      asker.context.signal environment.used environment.served ≠ none ∨ environment.closed = true)
      (orderly.environment_step move)
  cases move with
  | cancel token => exact woken_cancel known waits uncalled calls
  | serveTimers =>
    obtain ⟨deadline, isDue⟩ := woken_serveTimers known waits uncalled calls
    exact List.mem_append_right _ (List.mem_map.mpr ⟨_, List.mem_mergeSort.mpr isDue, rfl⟩)
  | shutdown => exact orderly.woken_shutdown known rests unended
  | takeWakes => exact absurd rfl keeps
  | _ =>
    -- No other move changes what calls an asker.
    exact absurd (same.mp calls) uncalled

/-- Whoever is handed a slot is woken. -/
theorem Orderly.woken_of_granted (orderly : gate.Orderly [])
    (waited : gate.stage? id = some (.inLine number))
    (granted : (gate.step move).stage? id = some (.granted number)) :
    .asker id ∈ (gate.step move).woken := by
  obtain ⟨next, newcomer, progress⟩ := orderly.progress_step move
  rcases progress.granted id number granted with before | ⟨isNext, -⟩
  · rw [waited] at before
    cases before
  · obtain ⟨told, woken, isWoken, isTold, -⟩ := progress.woken (List.ne_nil_of_mem isNext)
    have member : id ∈ woken.filterMap Wake.asker? := isTold ▸ List.mem_append_right told isNext
    obtain ⟨wake, isWake, same⟩ := List.mem_filterMap.mp member
    cases wake with
    | reader => cases same
    | asker other =>
      rw [isWoken, ← Option.some_inj.mp same]
      exact List.mem_append_right _ isWake

/-- Whoever listens is woken by the answer that is taken for it. -/
theorem woken_of_answered {exchange : Exchange} (answer : Answer)
    (listens : gate.stage? exchange.asker = some (.listening number)) :
    .asker exchange.asker ∈ (gate.answered exchange answer).woken := by
  obtain ⟨told, isTold, -, hears⟩ :=
    woken_deliver (gate.removePending exchange.question.id) exchange.asker answer
  obtain ⟨next, serves⟩ := advances_releaseOf
    ((gate.removePending exchange.question.id).deliver exchange.asker answer) exchange []
  obtain ⟨woken, isWoken, -⟩ := serves.woken
  show _ ∈ (((gate.removePending exchange.question.id).deliver exchange.asker answer).releaseOf
    exchange).woken
  rw [isWoken, isTold]
  exact List.mem_append_left _ (List.mem_append_right _ (List.mem_map_of_mem
    (hears number listens)))

/-! ### Moves and rest -/

/-- An asker that nothing calls goes on resting where it was. -/
theorem Rests.stay {later : Gate} {after : Asker} (rests : gate.Rests asker)
    (stage : after.stage = asker.stage)
    (silent : ∀ number, asker.stage = .listening number → after.reply = asker.reply)
    (uncalled : ¬later.Calls after) : later.Rests after := by
  cases rests with
  | inLine number isStage => exact .inLine number (stage.trans isStage) uncalled
  | listening number isStage isSilent =>
    exact .listening number (stage.trans isStage) ((silent number isStage).trans isSilent) uncalled
  | ended outcome isStage => exact .ended outcome (stage.trans isStage)

/-- An asker that rests goes on resting unless it is woken. -/
theorem Orderly.rests_or_woken (orderly : gate.Orderly []) (known : gate.askers[id]? = some asker)
    (rests : gate.Rests asker) (other : move ≠ .poll id) (keeps : move ≠ .takeWakes) {after : Asker}
    (isAfter : (gate.step move).askers[id]? = some after) :
    (gate.step move).Rests after ∨ .asker id ∈ (gate.step move).woken := by
  obtain ⟨current, isCurrent, passage⟩ := orderly.passage known move
  obtain rfl := Option.some_inj.mp (isCurrent.symm.trans isAfter)
  by_cases ended : ∃ outcome, asker.stage = .ended outcome
  · obtain ⟨outcome, stage⟩ := ended
    rw [passage.eq_of_ended stage]
    exact Or.inl (.ended outcome stage)
  have unended := not_exists.mp ended
  by_cases calls : (gate.step move).Calls asker
  · exact Or.inr (orderly.woken_of_calls known rests unended keeps calls)
  cases passage with
  | stays => exact Or.inl (rests.stay rfl (fun _ _ => rfl) calls)
  | handed =>
    cases rests with
    | inLine number stage =>
      have isHanded : asker.handed.stage = .granted number := by
        rw [Asker.handed_of_inLine stage]
      exact Or.inr (orderly.woken_of_granted (stage?_of_known known stage)
        (stage?_of_known isAfter isHanded))
    | listening number stage silent uncalled =>
      rw [Asker.handed_of_ne fun _ inLine => by rw [stage] at inLine; cases inLine]
      exact Or.inl (.listening number stage silent calls)
    | ended outcome stage => exact absurd stage (unended outcome)
  | turned => exact absurd rfl other
  | dropped => exact Or.inl (.ended .dropped (Asker.stage_abandoned unended))
  | answered exchange answer found accepted isOwn owns =>
    cases rests with
    | inLine number stage => exact Or.inl (.inLine number stage calls)
    | listening number stage =>
      obtain ⟨_, refused⟩ | ⟨taken, isTaken, -, same⟩ := orderly.refused_or_taken answer
      · rw [refused] at accepted
        cases accepted
      · obtain rfl := Option.some_inj.mp (found.symm.trans isTaken)
        have listens : gate.stage? exchange.asker = some (.listening number) :=
          isOwn ▸ stage?_of_known known stage
        refine Or.inr ?_
        rw [Gate.step, same, ← isOwn]
        exact woken_of_answered answer listens
    | ended outcome stage => exact absurd stage (unended outcome)

/-! ### Turns and rest -/

/-- A context that had not ended when it was looked at has no signal either. -/
theorem signal_eq_none_of_check {context : Context} {used : List Token} {now served : Nat}
    (past : served ≤ now) (unended : context.check used now = none) :
    context.signal used served = none := by
  unfold Context.check at unended
  split at unended
  · cases unended
  next uncancelled =>
  split at unended
  · cases unended
  next unexpired =>
  refine Option.eq_none_iff_forall_ne_some.mpr fun ending heard => ?_
  cases ending with
  | cancelled =>
    exact uncancelled (Context.isCancelled_eq_true_iff.mpr (Context.endedBy_of_signal past heard))
  | expired =>
    exact unexpired (Context.isExpired_eq_true_iff.mpr (Context.endedBy_of_signal past heard).2)

theorem not_calls (silent : asker.context.signal gate.used gate.served = none)
    (isOpen : gate.closed ≠ true) : ¬gate.Calls asker :=
  not_or.mpr ⟨fun heard => heard silent, isOpen⟩

theorem rests_afterListening (gate : Gate) (asker : Asker) (number : Nat) :
    gate.Rests { asker with stage := gate.afterListening asker number } := by
  unfold afterListening
  split
  · exact .ended _ rfl
  · next silent =>
    split
    · exact .ended _ rfl
    · next isOpen =>
      split
      · exact .ended _ rfl
      · next unheard => exact .listening number rfl silent (not_calls unheard isOpen)

theorem rests_afterGrant (gate : Gate) (asker : Asker) (number : Nat) :
    gate.Rests { asker with stage := gate.afterGrant asker number } := by
  unfold afterGrant
  split
  · exact .ended _ rfl
  · exact rests_afterListening gate asker number

/-- An asker rests where its turn takes it. -/
theorem Orderly.rests_destination (orderly : gate.Orderly []) (asker : Asker) :
    gate.Rests { gate.prepared asker with stage := gate.destination asker } := by
  unfold destination
  cases stage : asker.stage with
  | unheard =>
    simp only
    split
    · exact .ended _ rfl
    split
    · exact .ended _ rfl
    next isOpen absent =>
    rw [prepared,
      if_pos ⟨stage, Bool.eq_false_iff.mpr isOpen, Bool.eq_false_iff.mpr absent⟩]
    split
    · exact .ended _ rfl
    next unended =>
    split
    · exact rests_afterGrant gate _ _
    · exact .inLine _ rfl (not_calls (signal_eq_none_of_check orderly.served unended) isOpen)
  | inLine number =>
    rw [gate.prepared_of_heard (by rw [stage]; exact Stage.noConfusion)]
    simp only
    split
    · exact .ended _ rfl
    next unheard =>
    split
    · exact .ended _ rfl
    · next isOpen => exact .inLine number rfl (not_calls unheard isOpen)
  | granted number =>
    rw [gate.prepared_of_heard (by rw [stage]; exact Stage.noConfusion)]
    simp only
    split
    · exact .ended _ rfl
    split
    · exact .ended _ rfl
    · exact rests_afterGrant gate asker number
  | listening number =>
    rw [gate.prepared_of_heard (by rw [stage]; exact Stage.noConfusion)]
    exact rests_afterListening gate asker number
  | ended outcome => exact .ended outcome rfl

theorem Rests.of_environment {later : Gate} (rests : gate.Rests asker)
    (same : later.environment = gate.environment) : later.Rests asker := by
  by_cases ended : ∃ outcome, asker.stage = .ended outcome
  · obtain ⟨outcome, stage⟩ := ended
    exact .ended outcome stage
  · refine rests.stay rfl (fun _ _ => rfl) ?_
    have uncalled := rests.uncalled (not_exists.mp ended)
    have sameCalls : later.Calls asker = gate.Calls asker :=
      congrArg (fun environment : Environment =>
        asker.context.signal environment.used environment.served ≠ none ∨
          environment.closed = true) same
    rw [sameCalls]
    exact uncalled

/-- A turn leaves its asker at rest. -/
theorem Orderly.rests_poll (orderly : gate.Orderly []) {after : Asker}
    (isAfter : (gate.poll id).askers[id]? = some after) : (gate.poll id).Rests after := by
  cases known : gate.askers[id]? with
  | none =>
    have same : gate.poll id = gate := by simp only [Gate.poll, known]
    rw [same, known] at isAfter
    cases isAfter
  | some asker =>
    rw [orderly.askers_poll known, Option.some_inj] at isAfter
    rw [← isAfter]
    exact (orderly.rests_destination asker).of_environment (environment_poll gate id)

/-- An asker whose next turn is going to change something. -/
def Restless (gate : Gate) (id : AskerId) : Prop :=
  ∃ asker, gate.askers[id]? = some asker ∧ ¬gate.Rests asker

theorem Restless.of_same {later : Gate} (restless : later.Restless id)
    (askers : later.askers = gate.askers) (environment : later.environment = gate.environment) :
    gate.Restless id := by
  obtain ⟨asker, known, stirs⟩ := restless
  exact ⟨asker, askers ▸ known, fun rests => stirs (rests.of_environment environment)⟩

/-- Whoever has a slot in hand is going to use it. -/
theorem restless_of_granted (granted : gate.stage? id = some (.granted number)) :
    gate.Restless id := by
  obtain ⟨asker, known, stage⟩ := Option.map_eq_some_iff.mp granted
  refine ⟨asker, known, fun rests => ?_⟩
  cases rests with
  | inLine _ other => rw [stage] at other; cases other
  | listening _ other => rw [stage] at other; cases other
  | ended _ other => rw [stage] at other; cases other

/-- An asker is not restless after a turn of its own. -/
theorem Orderly.not_restless_of_own (orderly : gate.Orderly [])
    (own : move = .poll id ∨ move = .drop id) : ¬(gate.step move).Restless id := by
  rintro ⟨after, isAfter, stirs⟩
  rcases own with rfl | rfl
  · exact stirs (orderly.rests_poll isAfter)
  · rcases orderly.arrival_or_passage isAfter with ⟨_, _, isAsk, -⟩ | ⟨asker, known, -⟩
    · cases isAsk
    obtain rfl := Option.some_inj.mp (isAfter.symm.trans (orderly.askers_drop known))
    refine stirs ?_
    by_cases ended : ∃ outcome, asker.stage = .ended outcome
    · obtain ⟨outcome, stage⟩ := ended
      exact .ended outcome (by simp only [stage])
    · exact .ended .dropped (Asker.stage_abandoned (not_exists.mp ended))

/-- Whatever makes an asker restless wakes it, unless it has been started. -/
theorem Orderly.restless_step (orderly : gate.Orderly []) (keeps : move ≠ .takeWakes)
    (restless : (gate.step move).Restless id) :
    gate.Restless id ∨ .asker id ∈ (gate.step move).woken ∨
      id = gate.askers.length ∧ ∃ context question, move = .ask context question := by
  have unpolled : move ≠ .poll id := fun own =>
    orderly.not_restless_of_own (Or.inl own) restless
  obtain ⟨after, isAfter, stirs⟩ := restless
  rcases orderly.arrival_or_passage isAfter with ⟨context, question, isAsk, isLast, -⟩ |
    ⟨asker, known, -⟩
  · exact Or.inr (Or.inr ⟨isLast, context, question, isAsk⟩)
  by_cases rests : gate.Rests asker
  · exact Or.inr (Or.inl ((orderly.rests_or_woken known rests unpolled keeps isAfter).resolve_left
      stirs))
  · exact Or.inl ⟨asker, known, rests⟩

/-! ### Gates at rest -/

theorem setStage_self (known : gate.askers[id]? = some asker) :
    gate.setStage id asker.stage = gate := by
  have same : gate.askers.modify id ({ · with stage := asker.stage }) = gate.askers := by
    refine List.ext_getElem? fun other => ?_
    rw [List.getElem?_modify]
    split
    · next isOwn =>
      rw [← isOwn, known]
      rfl
    · exact Option.map_id'
  rw [setStage, updateAsker, same]

/-- The turn of an asker that rests changes nothing. -/
theorem Orderly.poll_of_rests (orderly : gate.Orderly []) (known : gate.askers[id]? = some asker)
    (rests : gate.Rests asker) : gate.poll id = gate := by
  cases rests with
  | inLine number stage uncalled =>
    obtain ⟨silent, isOpen⟩ := not_or.mp uncalled
    have untold : gate.signalled = false :=
      orderly.closing.told.trans (Bool.eq_false_iff.mpr isOpen)
    simp only [Gate.poll, known, stage, not_not.mp silent, untold, Bool.false_eq_true, if_false]
  | listening number stage silent uncalled =>
    have turn := orderly.turn_listening known stage
    have stays := (destination_listening_eq_iff stage).mpr ⟨silent, uncalled⟩
    rw [Gate.destination, stage] at stays
    have listens : gate.afterListening asker number = .listening number := stays
    rw [turn.afterListening_eq] at listens
    simp only [Gate.poll, known, stage]
    rw [turn.listen_eq]
    cases heard : gate.heard asker number with
    | some outcome =>
      rw [heard] at listens
      cases listens
    | none =>
      rw [← stage]
      exact setStage_self known
  | ended outcome stage => simp only [Gate.poll, known, stage]

/-- A gate is at rest if all timers are served and every asker rests. -/
theorem Orderly.atRest_iff_not_restless (orderly : gate.Orderly []) :
    gate.AtRest ↔ gate.dueTimers = [] ∧ ∀ id, ¬gate.Restless id := by
  refine ⟨fun still => ⟨still.1, fun id ⟨asker, known, stirs⟩ => ?_⟩, fun ⟨served, rests⟩ =>
    ⟨served, fun id => ?_⟩⟩
  · exact stirs (destination_eq_iff.mp (still.destination orderly known).2)
  · cases known : gate.askers[id]? with
    | none =>
      refine ⟨?_, by simp only [Gate.poll, known]⟩
      rw [stage?, known]
      exact fun impossible => by cases impossible
    | some asker =>
      have atRest : gate.Rests asker := not_not.mp fun stirs => rests id ⟨asker, known, stirs⟩
      refine ⟨?_, orderly.poll_of_rests known atRest⟩
      rw [stage?, known, Option.map_some, Ne, Option.some_inj]
      intro unheard
      cases atRest with
      | inLine _ stage => rw [unheard] at stage; cases stage
      | listening _ stage => rw [unheard] at stage; cases stage
      | ended _ stage => rw [unheard] at stage; cases stage

end OperatorDesk.Gate
