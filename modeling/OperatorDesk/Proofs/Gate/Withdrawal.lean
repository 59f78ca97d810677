/-
This file shows that an ask which is cancelled or timed out was withdrawn. No answer is ever
accepted for it, before or after; its exchange is gone, and nothing is pending under its id until
that id is registered anew. It is cancelled only if its token was used, and timed out only if the
token was not used and the deadline has passed that it brought or that it was given.
-/

import OperatorDesk.Proofs.Gate.History

namespace OperatorDesk

/-- The moves before the end of an ask and the time of the end bear out why its context ended. The
ask brought the context and was registered at the start. -/
def Context.BornOut (context : Context) (settings : GateSettings) (moves : List Gate.Move)
    (start now : Nat) : Ending → Prop
  | .cancelled => ∃ token, context.token = some token ∧ .cancel token ∈ moves
  | .expired => (∀ token, context.token = some token → .cancel token ∉ moves) ∧
      ∃ deadline,
        context.deadline.or (settings.defaultTimeout.map fun timeout => start + timeout) =
          some deadline ∧ deadline ≤ now

namespace Gate

variable {gate : Gate} {id : AskerId} {asker : Asker}

/-! ### What an ended ask leaves behind -/

/-- An ask that has ended stays as it is through every run. -/
theorem Orderly.ended_run (orderly : gate.Orderly []) (known : gate.askers[id]? = some asker)
    {outcome : Outcome} (ended : asker.stage = .ended outcome) (moves : List Move) :
    (gate.run moves).askers[id]? = some asker := by
  refine run_invariant (fun _ later => later.askers[id]? = some asker) gate known ?_ moves
  intro moves move before
  obtain ⟨after, isAfter, passage⟩ := (orderly.run moves).1.passage before move
  rw [isAfter, passage.eq_of_ended ended]

/-- If an exchange was the only one under its id, nothing is pending under that id once the
exchange is gone and no other has come. -/
theorem DistinctIds.absent_of_gone (distinct : gate.DistinctIds) {own : Exchange}
    (member : own ∈ gate.pending) {later : Gate}
    (fewer : (later.pending.map Exchange.unslotted).Sublist (gate.pending.map Exchange.unslotted))
    (gone : ∀ exchange ∈ later.pending, exchange.asker ≠ own.asker) :
    ∀ exchange ∈ later.pending, exchange.question.id ≠ own.question.id := by
  intro exchange isLater sameId
  obtain ⟨earlier, wasPending, same⟩ :=
    List.mem_map.mp (fewer.subset (List.mem_map_of_mem isLater))
  have question : earlier.unslotted.question = exchange.unslotted.question := by rw [same]
  have owner : earlier.unslotted.asker = exchange.unslotted.asker := by rw [same]
  have isOwn : earlier = own :=
    distinct.eq_of_id wasPending member ((congrArg Question.id question).trans sameId)
  rw [isOwn] at owner
  exact gone exchange isLater owner.symm

/-- Nothing is pending under the id of an ask whose turn has withdrawn it. -/
theorem Orderly.absent_of_withdrawn (orderly : gate.Orderly [])
    (known : gate.askers[id]? = some asker) (silent : asker.reply = none)
    (stillOpen : gate.closed = false) (entered : asker.stage = .unheard → gate.admits asker)
    (unended : ∀ outcome, asker.stage ≠ .ended outcome) {outcome : Outcome}
    (ends : gate.destination asker = .ended outcome) :
    ∀ exchange ∈ (gate.poll id).pending, exchange.question.id ≠ asker.question.id := by
  have gone := (orderly.poll id).1.owns_nothing (orderly.askers_poll known) (by rw [ends]; rfl)
  rcases poll_cases gate id with ⟨current, isCurrent, admitted, touches⟩ | ⟨turnedAway, touches⟩
  · obtain rfl := Option.some_inj.mp (known.symm.trans isCurrent)
    have turn := orderly.turn_enroll known admitted.1 stillOpen admitted.2.2
    have member : gate.entry id asker.question ∈ (gate.enroll id asker).pending :=
      mem_enroll.mpr (Or.inr rfl)
    exact turn.orderly.distinctIds.absent_of_gone member touches.pending gone
  · have heard : asker.stage ≠ .unheard := fun unheard => turnedAway asker known (entered unheard)
    obtain ⟨number, hasNumber⟩ := Stage.exists_number heard unended
    obtain ⟨own, member, isOwn⟩ := orderly.ownership.awaited id asker number known
      List.not_mem_nil hasNumber silent stillOpen
    rw [(orderly.owns known member isOwn).question]
    exact orderly.distinctIds.absent_of_gone member touches.pending (isOwn ▸ gone)

/-! ### Ids that are free -/

/-- What is pending after a move was pending before, or the move registers it. -/
theorem Orderly.pending_step (orderly : gate.Orderly []) (move : Move) :
    ∀ exchange ∈ (gate.step move).pending,
      (∃ earlier ∈ gate.pending, earlier.question = exchange.question) ∨
        ∃ registration ∈ gate.registration? move,
          registration.exchange.question = exchange.question := by
  have earlier : ∀ {base later : Gate}, base.Quiet later → ∀ exchange ∈ later.pending,
      ∃ earlier ∈ base.pending, earlier.question = exchange.question := by
    intro base later quiet exchange member
    obtain ⟨before, wasPending, same⟩ :=
      List.mem_map.mp (quiet.pending.subset (List.mem_map_of_mem member))
    have question : before.unslotted.question = exchange.unslotted.question := by rw [same]
    exact ⟨before, wasPending, question⟩
  intro exchange member
  cases orderly.event move with
  | quiet _ _ quiet => exact Or.inl (earlier quiet exchange member)
  | registers id asker isPoll known admitted quiet =>
    subst isPoll
    obtain ⟨before, wasPending, same⟩ := earlier quiet exchange member
    rcases mem_enroll.mp wasPending with old | rfl
    · exact Or.inl ⟨before, old, same⟩
    · exact Or.inr ⟨_, registration?_of_admits known admitted, same⟩
  | accepts found answer isSubmit _ _ same =>
    subst isSubmit
    obtain ⟨_, _, _, _, frame⟩ := answered_frame gate found answer
    rw [Gate.step, same, frame] at member
    exact Or.inl ⟨exchange, (mem_removePending.mp member).1, rfl⟩

/-- An id under which nothing is pending stays free until it is registered. -/
theorem Orderly.free_run (orderly : gate.Orderly []) {questionId : String}
    (free : ∀ exchange ∈ gate.pending, exchange.question.id ≠ questionId) (moves : List Move)
    (unregistered : ∀ registration ∈ gate.registrations moves,
      registration.exchange.question.id ≠ questionId) :
    ∀ exchange ∈ (gate.run moves).pending, exchange.question.id ≠ questionId := by
  refine run_invariant (fun moves later =>
    (∀ registration ∈ gate.registrations moves, registration.exchange.question.id ≠ questionId) →
      ∀ exchange ∈ later.pending, exchange.question.id ≠ questionId) gate (fun _ => free) ?_ moves
    unregistered
  intro moves move before unregistered exchange member
  rw [registrations, observed_concat] at unregistered
  rcases (orderly.run moves).1.pending_step move exchange member with
    ⟨earlier, wasPending, same⟩ | ⟨registration, isNew, same⟩
  · rw [← same]
    exact before (fun registration old => unregistered registration (List.mem_append_left _ old))
      earlier wasPending
  · rw [← same]
    exact unregistered registration (List.mem_append_right _ (Option.mem_toList.mpr isNew))

/-- Answers to a free id find nothing. -/
theorem submit_of_free {questionId : String}
    (free : ∀ exchange ∈ gate.pending, exchange.question.id ≠ questionId) {answer : Answer}
    (addressed : answer.questionId = questionId) :
    (gate.submit answer).2 = .error (.notFound questionId) := by
  have none : gate.find? answer.questionId = none := find?_eq_none_iff.mpr (addressed ▸ free)
  rw [submit, none]
  exact congrArg (fun id => Except.error (AskFailure.notFound id)) addressed

/-! ### Why the context ended -/

/-- The context in which an ask goes on is the one it brought, with the default timeout applied
when it was registered. -/
theorem origin_of_prepared {settings : GateSettings} {moves : List Move}
    (known : ((new settings).run moves).askers[id]? = some asker)
    (entered : asker.stage = .unheard → ((new settings).run moves).admits asker)
    (unended : ∀ outcome, asker.stage ≠ .ended outcome) :
    ∃ context, ∃ registration ∈ (new settings).registrations (moves ++ [.poll id]),
      (asked moves)[id]? = some (context, asker.question) ∧ registration.exchange.asker = id ∧
        (((new settings).run moves).prepared asker).context =
          context.orTimeout registration.time settings.defaultTimeout := by
  have origins := (ledger_run settings moves).origins
  have timeout : ((new settings).run moves).settings.defaultTimeout = settings.defaultTimeout :=
    (congrArg GateSettings.defaultTimeout ((orderly_new settings).settings_run moves)).trans rfl
  rw [registrations, observed_concat]
  by_cases unheard : asker.stage = .unheard
  · have admitted := entered unheard
    rw [registration?_of_admits known admitted, prepared, if_pos admitted, ← timeout]
    exact ⟨asker.context, _, List.mem_append_right _ (List.mem_singleton_self _),
      origins.fresh id asker known unheard, rfl, rfl⟩
  · obtain ⟨number, hasNumber⟩ := Stage.exists_number unheard unended
    obtain ⟨context, registration, member, isAsk, isOwn, bounded⟩ :=
      origins.bounded id asker number known hasNumber
    rw [timeout] at bounded
    rw [prepared_of_heard _ unheard]
    exact ⟨context, registration, List.mem_append_left _ member, isAsk, isOwn, bounded⟩

theorem bornOut_of_endedBy {settings : GateSettings} {moves : List Move} {context : Context}
    {start : Nat} {ending : Ending}
    (ended : (context.orTimeout start settings.defaultTimeout).EndedBy
      ((new settings).run moves).used ((new settings).run moves).now ending) :
    context.BornOut settings moves start ((new settings).run moves).now ending := by
  have isUsed : ∀ token, token ∈ ((new settings).run moves).used ↔ .cancel token ∈ moves := by
    intro token
    rw [(orderly_new settings).mem_used_run moves]
    exact or_iff_right List.not_mem_nil
  cases ending with
  | cancelled =>
    obtain ⟨token, isToken, used⟩ := ended
    rw [Context.token_orTimeout] at isToken
    exact ⟨token, isToken, (isUsed token).mp used⟩
  | expired =>
    obtain ⟨unused, deadline, isDeadline, reached⟩ := ended
    rw [Context.token_orTimeout] at unused
    rw [Context.deadline_orTimeout] at isDeadline
    exact ⟨fun token isToken member => unused token isToken ((isUsed token).mpr member),
      deadline, isDeadline, reached⟩

/-! ### Withdrawn for good -/

/-- After some moves no answer has been accepted for the ask, so that the history has none, and
nothing of it is pending. -/
structure Withdrawn (settings : GateSettings) (moves : List Move) (id : AskerId) : Prop where
  unanswered : ∀ receipt ∈ (new settings).receipts moves, receipt.exchange.asker ≠ id
  history : ((new settings).run moves).history =
    ((new settings).receipts moves).map Receipt.record
  gone : ∀ exchange ∈ ((new settings).run moves).pending, exchange.asker ≠ id

theorem withdrawn_of_ended {settings : GateSettings} {moves : List Move}
    (known : ((new settings).run moves).askers[id]? = some asker) {failure : AskFailure}
    (ended : asker.stage = .ended (.failed failure)) (cancelled : failure.isCancellation = true) :
    Withdrawn settings moves id := by
  have ledger := ledger_run settings moves
  have silent := (ledger.replies.consistent id asker known).withdrawn failure ended cancelled
  refine ⟨fun receipt member isOwn => ?_, ledger.book.history,
    (orderly_run settings moves).owns_nothing known (by rw [ended]; rfl)⟩
  obtain ⟨owner, isOwner, reply⟩ := ledger.replies.delivered receipt member
  rw [isOwn, known, Option.some_inj] at isOwner
  rw [← isOwner, silent] at reply
  cases reply

/-- An ask that a turn ends as cancelled or timed out is withdrawn for good: whatever happens
afterwards, no answer is or was accepted for it, and answers to its id find nothing until the id
is registered again. The token was used or the deadline has passed accordingly. -/
theorem withdrawn_for_good (settings : GateSettings) (moves : List Move) {gate : Gate}
    (reached : (new settings).run moves = gate) {id : AskerId} {asker : Asker}
    (known : gate.askers[id]? = some asker) (unended : ∀ outcome, asker.stage ≠ .ended outcome)
    {failure : AskFailure} (cancelled : failure.isCancellation = true)
    (ends : (gate.poll id).stage? id = some (.ended (.failed failure))) :
    (∀ rest, Withdrawn settings (moves ++ .poll id :: rest) id ∧
      ((∀ registration ∈ (gate.poll id).registrations rest,
          registration.exchange.question.id ≠ asker.question.id) →
        ∀ answer, answer.questionId = asker.question.id →
          (((gate.poll id).run rest).submit answer).2 = .error (.notFound asker.question.id))) ∧
      ∃ ending, failure = failureOf asker.question.id ending ∧
        ∃ context, ∃ registration ∈ (new settings).registrations (moves ++ [.poll id]),
          (asked moves)[id]? = some (context, asker.question) ∧
            registration.exchange.asker = id ∧
            context.BornOut settings moves registration.time gate.now ending := by
  subst reached
  have orderly := orderly_run settings moves
  have turned := orderly.askers_poll known
  have polled := (orderly.poll id).1
  have destined : ((new settings).run moves).destination asker = .ended (.failed failure) := by
    rw [stage?, turned, Option.map_some] at ends
    exact Option.some_inj.mp ends
  cases verdict_destination orderly.served unended destined with
  | closed => cases cancelled
  | duplicate => cases cancelled
  | withdrawn ending silent stillOpen entered ended =>
    refine ⟨fun rest => ⟨?_, fun unregistered answer addressed => ?_⟩, ending, rfl, ?_⟩
    · have after := polled.ended_run turned destined rest
      have joined : (new settings).run (moves ++ .poll id :: rest) =
          (((new settings).run moves).poll id).run rest :=
        (new settings).run_append moves (.poll id :: rest)
      rw [← joined] at after
      exact withdrawn_of_ended after destined cancelled
    · have free := orderly.absent_of_withdrawn known silent stillOpen entered unended destined
      exact submit_of_free (polled.free_run free rest unregistered) addressed
    · obtain ⟨context, registration, member, isAsk, isOwn, same⟩ :=
        origin_of_prepared known entered unended
      rw [same] at ended
      exact ⟨context, registration, member, isAsk, isOwn, bornOut_of_endedBy ended⟩

/-- A gate that gives each ask five milliseconds. -/
def hasty : GateSettings :=
  { capacity := 1, defaultTimeout := some 5 }

/-- An asker waits until its time is up. -/
def outwaiting : List Move :=
  [.ask .background (.plain "Q-1" "Which store?"), .poll 0, .elapse 5, .serveTimers]

/-- The next turn of the asker ends its ask, and an answer that comes then is too late. -/
theorem withdrawn_for_good_hasty :
    Withdrawn hasty (outwaiting ++ [.poll 0, .submit (declining "Q-1")]) 0 := by
  have known : ((new hasty).run outwaiting).askers[0]? = some
      { question := .plain "Q-1" "Which store?", context := .withDeadline 5, stage := .listening 1,
        reply := none } := by decide
  have timedOut : (((new hasty).run outwaiting).poll 0).stage? 0 =
      some (.ended (.failed (.timedOut "Q-1"))) := by decide
  have withdrawn := withdrawn_for_good hasty outwaiting rfl known
    (fun _ ended => by cases ended) rfl timedOut
  exact (withdrawn.1 [.submit (declining "Q-1")]).1

end Gate

end OperatorDesk
