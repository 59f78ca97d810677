/-
This file shows that shutting a gate down is final. Nothing is pending afterwards, and nothing is
asked, answered or read any more; the history stays as it is. Whoever waited for an answer at the
shutdown hears of it in its next turn, whatever its context does meanwhile, and once everybody has
had a turn nobody waits.
-/

import OperatorDesk.Proofs.Gate.Withdrawal

namespace OperatorDesk.Gate

variable {gate : Gate} {id : AskerId} {asker : Asker}

/-! ### Turns at a closed gate -/

/-- At a closed gate an ask ends with its turn. -/
theorem destination_of_closed (isClosed : gate.closed = true) (asker : Asker) :
    ∃ outcome, gate.destination asker = .ended outcome := by
  have listened : ∀ number, ∃ outcome, gate.afterListening asker number = .ended outcome := by
    intro number
    unfold afterListening
    split
    · exact ⟨_, rfl⟩
    · exact ⟨_, if_pos isClosed⟩
  unfold Gate.destination
  cases asker.stage with
  | unheard => exact ⟨_, if_pos isClosed⟩
  | inLine number =>
    cases asker.context.signal gate.used gate.served with
    | some ending => exact ⟨_, rfl⟩
    | none => exact ⟨_, if_pos isClosed⟩
  | granted number =>
    cases asker.context.signal gate.used gate.served with
    | some ending => exact ⟨_, rfl⟩
    | none => exact ⟨_, if_pos isClosed⟩
  | listening number => exact listened number
  | ended outcome => exact ⟨outcome, rfl⟩

/-- Without an answer it ends because of the closing, even if its context has ended as well. -/
theorem destination_of_closed_silent (isClosed : gate.closed = true)
    (silent : asker.reply = none) (unended : ∀ outcome, asker.stage ≠ .ended outcome) :
    gate.destination asker = .ended (.failed .closed) := by
  have concluded : ∀ ending, gate.conclusion asker ending = .failed .closed := by
    intro ending
    simp only [conclusion, silent, isClosed, if_true]
  unfold Gate.destination
  cases stage : asker.stage with
  | unheard => exact if_pos isClosed
  | inLine number =>
    cases asker.context.signal gate.used gate.served with
    | some ending => exact congrArg Stage.ended (concluded ending)
    | none => exact if_pos isClosed
  | granted number =>
    cases asker.context.signal gate.used gate.served with
    | some ending => exact congrArg Stage.ended (concluded ending)
    | none => exact if_pos isClosed
  | listening number => simp only [afterListening, silent, isClosed, if_true]
  | ended outcome => exact absurd stage (unended outcome)

/-! ### Nothing goes on -/

/-- Nothing goes on at the gate: answers find no question, readers learn that nothing will come,
whoever asks is sent away, and at rest nobody waits. -/
structure Over (gate : Gate) : Prop where
  pending : gate.pending = []
  refuses : ∀ answer, gate.submit answer = (gate, .error (.notFound answer.questionId))
  tryNext : gate.tryNext = (gate, none)
  drain : gate.drain = (gate, [])
  pollNext : gate.pollNext = (gate, .over)
  pollStream : gate.pollStream = (gate, .over)
  shutdown : gate.shutdown = gate
  sendsAway : ∀ id asker, gate.askers[id]? = some asker → asker.stage = .unheard →
    (gate.poll id).stage? id = some (.ended (.failed .closed))
  rest : gate.AtRest → ∀ id, ¬gate.isSuspended id

theorem AtRest.not_isSuspended_of_closed (atRest : gate.AtRest) (orderly : gate.Orderly [])
    (isClosed : gate.closed = true) (id : AskerId) : ¬gate.isSuspended id := by
  rintro ⟨asker, known, unended⟩
  obtain ⟨outcome, ends⟩ := destination_of_closed isClosed asker
  exact unended outcome ((atRest.destination orderly known).2.symm.trans ends)

theorem Orderly.over (orderly : gate.Orderly []) (isClosed : gate.closed = true) :
    gate.Over := by
  have nothing : gate.pending = [] := (orderly.closing.empty isClosed).1
  have told : gate.signalled = true := orderly.closing.told.trans isClosed
  have tryNext : gate.tryNext = (gate, none) := if_pos told
  refine ⟨nothing, fun answer => ?_, tryNext, ?_, ?_, ?_, if_pos isClosed, ?_,
    fun atRest => atRest.not_isSuspended_of_closed orderly isClosed⟩
  · have absent : gate.find? answer.questionId = none := by rw [find?, nothing, List.find?_nil]
    rw [Gate.submit, absent]
  · unfold Gate.drain
    cases gate.mailbox.length with
    | zero => rfl
    | succ count => rw [drainUpTo, tryNext]
  · unfold Gate.pollNext
    cases gate.mailbox with
    | nil => exact if_pos told
    | cons letter rest => exact if_pos told
  · have ends : (gate.closed || gate.signalled) = true := by rw [isClosed, Bool.true_or]
    unfold Gate.pollStream
    cases gate.mailbox with
    | nil => exact if_pos ends
    | cons letter rest => exact if_pos ends
  · intro id asker known unheard
    rw [stage?, orderly.askers_poll known, Option.map_some, Gate.destination, unheard]
    exact congrArg some (if_pos isClosed)

theorem Orderly.history_step_of_closed (orderly : gate.Orderly []) (isClosed : gate.closed = true)
    (move : Move) : (gate.step move).history = gate.history := by
  cases orderly.event move with
  | quiet _ _ quiet => exact quiet.history
  | registers id asker _ _ _ quiet => exact quiet.history
  | accepts exchange answer _ found =>
    have member := mem_of_find? found
    rw [(orderly.closing.empty isClosed).1] at member
    cases member

/-- A closed gate stays closed, and its history stays as it is. -/
theorem Orderly.closed_for_good (orderly : gate.Orderly []) (isClosed : gate.closed = true)
    (moves : List Move) :
    (gate.run moves).closed = true ∧ (gate.run moves).history = gate.history := by
  refine run_invariant (fun _ later => later.closed = true ∧ later.history = gate.history) gate
    ⟨isClosed, rfl⟩ ?_ moves
  intro moves move before
  have ordered := (orderly.run moves).1
  refine ⟨?_, (ordered.history_step_of_closed before.1 move).trans before.2⟩
  exact (ordered.closed_run [move]).mpr (Or.inl before.1)

/-! ### Those who waited -/

/-- An asker that waits without an answer at a closed gate waits on until its turn, and with its
turn it ends because of the closing. -/
theorem Orderly.dismissed_run (orderly : gate.Orderly []) (isClosed : gate.closed = true)
    (known : gate.askers[id]? = some asker) (silent : asker.reply = none) {number : Nat}
    (waits : asker.stage.number? = some number) (moves : List Move) (undropped : .drop id ∉ moves) :
    ∃ later, (gate.run moves).askers[id]? = some later ∧ later.reply = none ∧
      (later.stage = .ended (.failed .closed) ∨
        .poll id ∉ moves ∧ ∃ number, later.stage.number? = some number) := by
  refine run_invariant (fun moves current => .drop id ∉ moves → ∃ later,
    current.askers[id]? = some later ∧ later.reply = none ∧
      (later.stage = .ended (.failed .closed) ∨
        .poll id ∉ moves ∧ ∃ number, later.stage.number? = some number)) gate
    (fun _ => ⟨asker, known, silent, Or.inr ⟨List.not_mem_nil, number, waits⟩⟩) ?_ moves undropped
  intro moves move before undropped
  obtain ⟨notBefore, notLast⟩ := not_or.mp (fun member => undropped (List.mem_append.mpr member))
  obtain ⟨current, isCurrent, isSilent, place⟩ := before notBefore
  have ordered := (orderly.run moves).1
  have nothing := (orderly.closed_for_good isClosed moves).1
  obtain ⟨after, isAfter, passage⟩ := ordered.passage isCurrent move
  refine ⟨after, isAfter, ?_⟩
  rcases place with ended | ⟨unturned, number, hasNumber⟩
  · rw [passage.eq_of_ended ended]
    exact ⟨isSilent, Or.inl ended⟩
  have unended : ∀ outcome, current.stage ≠ .ended outcome := by
    intro outcome ended
    rw [ended] at hasNumber
    cases hasNumber
  -- Only the asker's own turn counts as one.
  have waitsOn : move ≠ .poll id → .poll id ∉ moves ++ [move] := by
    intro different member
    exact (List.mem_append.mp member).elim unturned
      fun isLast => different (List.mem_singleton.mp isLast).symm
  by_cases isTurn : move = .poll id
  · subst isTurn
    have turned := ordered.askers_poll isCurrent
    rw [destination_of_closed_silent nothing isSilent unended] at turned
    obtain rfl := Option.some_inj.mp (isAfter.symm.trans turned)
    exact ⟨((gate.run moves).reply_prepared current).trans isSilent, Or.inl rfl⟩
  · cases passage with
    | stays => exact ⟨isSilent, Or.inr ⟨waitsOn isTurn, number, hasNumber⟩⟩
    | handed =>
      exact ⟨(congrArg Prod.snd current.said_handed).trans isSilent,
        Or.inr ⟨waitsOn isTurn, number, current.number?_handed.trans hasNumber⟩⟩
    | turned => exact absurd rfl isTurn
    | dropped => exact absurd (List.mem_singleton_self _) notLast
    | answered exchange answer found =>
      have member := mem_of_find? found
      rw [(ordered.closing.empty nothing).1] at member
      cases member

/-! ### Everybody has a turn -/

/-- Everybody who has asked has a turn. -/
def everyTurn (gate : Gate) : List Move :=
  (List.range gate.askers.length).map Move.poll

/-- At a closed gate an asker has ended once it has had a turn. -/
theorem Orderly.ended_of_turn (orderly : gate.Orderly []) (isClosed : gate.closed = true)
    (known : gate.askers[id]? = some asker) {moves : List Move} (turn : .poll id ∈ moves) :
    ∃ later outcome, (gate.run moves).askers[id]? = some later ∧ later.stage = .ended outcome := by
  obtain ⟨first, rest, rfl⟩ := List.append_of_mem turn
  have ordered := (orderly.run first).1
  obtain ⟨current, isCurrent⟩ : ∃ current, (gate.run first).askers[id]? = some current := by
    refine run_invariant (fun _ later => ∃ current, later.askers[id]? = some current) gate
      ⟨asker, known⟩ ?_ first
    rintro moves move ⟨before, isBefore⟩
    obtain ⟨after, isAfter, -⟩ := (orderly.run moves).1.passage isBefore move
    exact ⟨after, isAfter⟩
  obtain ⟨outcome, ends⟩ := destination_of_closed (orderly.closed_for_good isClosed first).1 current
  have ended := (ordered.poll id).1.ended_run (ordered.askers_poll isCurrent) ends rest
  rw [run_append]
  exact ⟨_, outcome, ended, ends⟩

theorem length_askers_polls (gate : Gate) (ids : List AskerId) :
    (gate.run (ids.map Move.poll)).askers.length = gate.askers.length := by
  induction ids generalizing gate with
  | nil => rfl
  | cons id rest inductionHypothesis =>
    have turned := congrArg List.length (questions_poll gate id)
    rw [List.length_map, List.length_map] at turned
    exact (inductionHypothesis (gate.poll id)).trans turned

/-- A gate is at rest when all asks have ended. -/
theorem atRest_of_ended (ended : ∀ (id : AskerId) asker, gate.askers[id]? = some asker →
    ∃ outcome, asker.stage = .ended outcome) : gate.AtRest := by
  have nobody : gate.waitingWhere (fun _ => true) = [] := by
    refine List.filter_eq_nil_iff.mpr fun id _ waits => ?_
    obtain ⟨asker, known, isWaiting⟩ := (Option.any_eq_true _ _).mp waits
    obtain ⟨outcome, stage⟩ := ended id asker known
    rw [Asker.isWaiting_eq_isSome, stage] at isWaiting
    cases isWaiting
  refine ⟨by rw [dueTimers, nobody, List.filterMap_nil], fun id => ?_⟩
  cases known : gate.askers[id]? with
  | none => exact ⟨by simp [stage?, known], by simp only [Gate.poll, known]⟩
  | some asker =>
    obtain ⟨outcome, stage⟩ := ended id asker known
    exact ⟨by simp [stage?, known, stage], by simp only [Gate.poll, known, stage]⟩

/-- A closed gate is at rest after everybody has had a turn. -/
theorem Orderly.atRest_everyTurn (orderly : gate.Orderly []) (isClosed : gate.closed = true) :
    (gate.run gate.everyTurn).AtRest := by
  refine atRest_of_ended fun id later isLater => ?_
  have within := (List.getElem?_eq_some_iff.mp isLater).1
  rw [everyTurn, length_askers_polls] at within
  have turn : Move.poll id ∈ gate.everyTurn :=
    List.mem_map_of_mem (List.mem_range.mpr within)
  obtain ⟨after, outcome, isAfter, ended⟩ :=
    orderly.ended_of_turn isClosed (List.getElem?_eq_getElem within) turn
  obtain rfl := Option.some_inj.mp (isLater.symm.trans isAfter)
  exact ⟨outcome, ended⟩

/-! ### Shut down for good -/

/-- Whatever happens after a shutdown, nothing goes on at the gate and its history stays as it was.
An ask whose question was pending at the shutdown has ended because of it, unless it was dropped,
or else it has not had a turn since and the gate is not at rest. Turns for everybody bring the
gate to rest. -/
theorem shutdown_final (settings : GateSettings) (before : List Move) {gate : Gate}
    (reached : (new settings).run before = gate) (rest : List Move) :
    (gate.shutdown.run rest).Over ∧
      (gate.shutdown.run rest).history = gate.history ∧
      (∀ exchange ∈ gate.pending, .drop exchange.asker ∉ rest →
        (gate.shutdown.run rest).stage? exchange.asker = some (.ended (.failed .closed)) ∨
          (gate.shutdown.run rest).isSuspended exchange.asker ∧ .poll exchange.asker ∉ rest ∧
            ¬(gate.shutdown.run rest).AtRest) ∧
      ((gate.shutdown.run rest).run (gate.shutdown.run rest).everyTurn).AtRest := by
  have orderly : gate.Orderly [] := reached ▸ orderly_run settings before
  have shut := orderly.shutdown
  obtain ⟨_, _, _, _, _, -, same⟩ := shutdown_frame gate
  have isClosed : gate.shutdown.closed = true := by rw [same]
  obtain ⟨stillClosed, history⟩ := shut.closed_for_good isClosed rest
  have ordered := (shut.run rest).1
  refine ⟨ordered.over stillClosed, history.trans (by rw [same]), ?_,
    ordered.atRest_everyTurn stillClosed⟩
  intro exchange member undropped
  obtain ⟨asker, known, owns⟩ := orderly.ownership.owned exchange member List.not_mem_nil
  have stillKnown : gate.shutdown.askers[exchange.asker]? = some asker := by rw [same]; exact known
  obtain ⟨later, isLater, -, ended | ⟨unturned, number, hasNumber⟩⟩ :=
    shut.dismissed_run isClosed stillKnown owns.reply owns.number rest undropped
  · exact Or.inl (by rw [stage?, isLater, Option.map_some, ended])
  · have suspended : (gate.shutdown.run rest).isSuspended exchange.asker := by
      refine ⟨later, isLater, fun outcome ended => ?_⟩
      rw [ended] at hasNumber
      cases hasNumber
    exact Or.inr ⟨suspended, unturned, fun atRest =>
      atRest.not_isSuspended_of_closed ordered stillClosed exchange.asker suspended⟩

/-- Two agents with tokens of their own ask and take their first turns. -/
def crowdingWithTokens : List Move :=
  [.ask (.cancellable 0) (.plain "Q-1" "Which store?"), .poll 0,
    .ask (.cancellable 1) (.plain "Q-2" "Which name?"), .poll 1]

/-- The second asker stands in line when the gate with one slot is shut down. Its context ends
before its turn, and still it hears of the shutdown. -/
theorem shutdown_final_cancelled :
    (((new { capacity := 1, defaultTimeout := none }).run crowdingWithTokens).shutdown.run
      [.cancel 1, .poll 1]).stage? 1 = some (.ended (.failed .closed)) := by
  have final := shutdown_final { capacity := 1, defaultTimeout := none } crowdingWithTokens rfl
    [.cancel 1, .poll 1]
  have waits : Exchange.mk 2 (.plain "Q-2" "Which name?") 1 false .epoch ∈
      ((new { capacity := 1, defaultTimeout := none }).run crowdingWithTokens).pending := by decide
  exact (final.2.2.1 _ waits (by decide)).resolve_right fun unturned =>
    unturned.2.1 (by decide)

end OperatorDesk.Gate
