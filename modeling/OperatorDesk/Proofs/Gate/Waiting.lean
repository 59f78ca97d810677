/-
This file says under which circumstances askers wait. At a gate at rest, whoever waits for a slot
or for a reply does so because nothing has come about that is to end the wait: the gate is open, the
token has not been used, and the deadline lies ahead.
-/

import OperatorDesk.Proofs.Gate.Ledger
import OperatorDesk.Proofs.Gate.Rousing

namespace OperatorDesk.Gate

variable {gate : Gate} {id : AskerId} {asker : Asker} {settings : GateSettings}
  {moves : List Move}

/-- Whoever waits at a gate at rest has a context that goes on, and the gate is open. -/
theorem Orderly.goesOn_atRest (orderly : gate.Orderly []) (atRest : gate.AtRest)
    (known : gate.askers[id]? = some asker) (unended : ∀ outcome, asker.stage ≠ .ended outcome) :
    gate.closed = false ∧ ∀ ending, ¬asker.context.EndedBy gate.used gate.now ending := by
  obtain ⟨served, still⟩ := orderly.atRest_iff_not_restless.mp atRest
  have rests : gate.Rests asker := not_not.mp fun stirs => still id ⟨asker, known, stirs⟩
  obtain ⟨silent, isOpen⟩ := not_or.mp (rests.uncalled unended)
  obtain ⟨noToken, noTimer⟩ := Option.or_eq_none_iff.mp (not_not.mp silent)
  refine ⟨Bool.eq_false_iff.mpr isOpen, fun ending ended => ?_⟩
  cases ending with
  | cancelled =>
    obtain ⟨token, isToken, isUsed⟩ := ended
    simp [Context.cancelSignal, isToken, isUsed] at noToken
  | expired =>
    obtain ⟨-, deadline, isDeadline, reached⟩ := ended
    have unserved : gate.served < deadline := by
      simpa [Context.timerSignal, isDeadline] using noTimer
    have isDue := mem_dueTimers known (rests.isWaiting unended) isDeadline unserved reached
    rw [served] at isDue
    cases isDue

/-- Nothing has come about in a run of a gate that is to end the wait of an asker: the gate has not
been shut down, the token that the asker brought has not been used, and the time for its answer has
not run out. That is until the deadline that it brought, or else for the default timeout from its
first turn on. -/
structure MayWait (settings : GateSettings) (moves : List Move) (id : AskerId) : Prop where
  isOpen : ((new settings).run moves).closed = false
  unclosed : .shutdown ∉ moves
  goesOn : ∃ context question, ∃ registration ∈ (new settings).registrations moves,
    (asked moves)[id]? = some (context, question) ∧ registration.exchange.asker = id ∧
      (∀ token, context.token = some token → .cancel token ∉ moves) ∧
      ∀ deadline,
        context.deadline.or
            (settings.defaultTimeout.map fun timeout => registration.time + timeout) =
          some deadline → ((new settings).run moves).now < deadline

/-- Whoever waits at a gate at rest may wait. -/
theorem mayWait_of_atRest (atRest : ((new settings).run moves).AtRest)
    (suspended : ((new settings).run moves).isSuspended id) : MayWait settings moves id := by
  have orderly := orderly_run settings moves
  obtain ⟨asker, known, unended⟩ := suspended
  obtain ⟨isOpen, goesOn⟩ := orderly.goesOn_atRest atRest known unended
  obtain ⟨number, waits⟩ := Stage.exists_number (atRest.destination orderly known).1 unended
  obtain ⟨context, registration, member, isAsk, isOwn, bounded⟩ :=
    (ledger_run settings moves).origins.bounded id asker number known waits
  have token : asker.context.token = context.token := by
    rw [bounded, Context.token_orTimeout]
  have deadline : asker.context.deadline = context.deadline.or
      (settings.defaultTimeout.map fun timeout => registration.time + timeout) := by
    rw [bounded, Context.deadline_orTimeout, (orderly_new settings).settings_run moves]
    rfl
  have unused : ∀ token, asker.context.token = some token →
      token ∉ ((new settings).run moves).used :=
    fun token isToken isUsed => goesOn .cancelled ⟨token, isToken, isUsed⟩
  refine ⟨isOpen, fun isShutdown => ?_, context, asker.question, registration, member, isAsk, isOwn,
    fun own isOwnToken isCancel => ?_, fun own isDeadline => Nat.lt_of_not_le fun reached => ?_⟩
  · rw [((orderly_new settings).closed_run moves).mpr (Or.inr isShutdown)] at isOpen
    cases isOpen
  · exact unused own (token.trans isOwnToken)
      (((orderly_new settings).mem_used_run moves).mpr (Or.inr isCancel))
  · exact goesOn .expired ⟨unused, own, deadline.trans isDeadline, reached⟩

end OperatorDesk.Gate
