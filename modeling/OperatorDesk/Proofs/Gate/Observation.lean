/-
This file says what is seen of a run from outside: who asked what, which questions were registered
and which answers were accepted, each in order. It then says what one move does to the exchanges,
the history and the askers in these terms: a move is quiet, or it is one of these three.
-/

import OperatorDesk.Proofs.Gate.Course

namespace OperatorDesk.Gate

/-- What is seen of the moves of a run, in order. -/
def observed {Fact : Type} (observe : Gate → Move → Option Fact) (gate : Gate) :
    List Move → List Fact
  | [] => []
  | move :: rest => (observe gate move).toList ++ observed observe (gate.step move) rest

theorem observed_append {Fact : Type} (observe : Gate → Move → Option Fact) (gate : Gate)
    (first second : List Move) :
    observed observe gate (first ++ second) =
      observed observe gate first ++ observed observe (gate.run first) second := by
  induction first generalizing gate with
  | nil => rfl
  | cons move rest inductionHypothesis =>
    rw [List.cons_append, observed, observed, inductionHypothesis, List.append_assoc]
    rfl

theorem observed_concat {Fact : Type} (observe : Gate → Move → Option Fact) (gate : Gate)
    (moves : List Move) (move : Move) :
    observed observe gate (moves ++ [move]) =
      observed observe gate moves ++ (observe (gate.run moves) move).toList := by
  rw [observed_append, observed, observed, List.append_nil]

/-- The entry of a question, and what the clock showed then. -/
structure Registration where
  exchange : Exchange
  time : Nat

/-- An answer that was accepted, for the exchange that was pending then. -/
structure Receipt where
  exchange : Exchange
  answer : Answer
  time : Moment

/-- What the history is to say about an accepted answer. -/
def Receipt.record (receipt : Receipt) : Record :=
  { question := receipt.exchange.question, answer := receipt.answer,
    askedAt := receipt.exchange.askedAt, answeredAt := receipt.time }

/-- What is asked by a move. -/
def Move.asked? : Move → Option (Context × Question)
  | .ask context question => some (context, question)
  | _ => none

/-- What is registered by a move. -/
def registration? (gate : Gate) : Move → Option Registration
  | .poll id =>
    (gate.askers[id]?).bind fun asker =>
      if gate.admits asker then
        some { exchange := gate.entry id asker.question, time := gate.now }
      else none
  | _ => none

/-- The answer that is accepted by a move. -/
def receipt? (gate : Gate) : Move → Option Receipt
  | .submit answer =>
    match gate.find? answer.questionId, (gate.submit answer).2 with
    | some exchange, .ok _ => some { exchange, answer, time := gate.wallClock }
    | _, _ => none
  | _ => none

/-- All that is asked in a run. -/
def asked (moves : List Move) : List (Context × Question) :=
  moves.filterMap Move.asked?

/-- The registrations of a run. -/
def registrations (gate : Gate) (moves : List Move) : List Registration :=
  observed registration? gate moves

/-- The accepted answers of a run. -/
def receipts (gate : Gate) (moves : List Move) : List Receipt :=
  observed receipt? gate moves

variable {gate : Gate} {id : AskerId} {asker : Asker}

/-! ### Questions -/

theorem Touches.questions_eq {later : Gate} {busy : List AskerId}
    (touches : gate.Touches later busy) :
    later.askers.map Asker.question = gate.askers.map Asker.question := by
  refine List.ext_getElem? fun id => ?_
  have said := congrArg (Option.map Prod.fst) (touches.said id)
  rw [Option.map_map, Option.map_map] at said
  rw [List.getElem?_map, List.getElem?_map]
  exact said

theorem questions_updateAsker (gate : Gate) (id : AskerId) {change : Asker → Asker}
    (same : ∀ asker, gate.askers[id]? = some asker → (change asker).question = asker.question) :
    (gate.updateAsker id change).askers.map Asker.question =
      gate.askers.map Asker.question := by
  refine List.ext_getElem? fun other => ?_
  rw [List.getElem?_map, List.getElem?_map]
  by_cases isOther : other = id
  · subst isOther
    cases known : gate.askers[other]? with
    | none => rw [updateAsker, List.getElem?_modify_eq, known]; rfl
    | some asker =>
      rw [askers_updateAsker_self known, Option.map_some, Option.map_some, same asker known]
  · rw [askers_updateAsker_of_ne gate isOther]

theorem questions_poll (gate : Gate) (id : AskerId) :
    (gate.poll id).askers.map Asker.question = gate.askers.map Asker.question := by
  rcases poll_cases gate id with ⟨asker, known, -, touches⟩ | ⟨-, touches⟩
  · rw [touches.questions_eq]
    refine questions_updateAsker (gate.register id asker.question) id fun other isOther => ?_
    obtain rfl := Option.some_inj.mp (known.symm.trans isOther)
    rfl
  · exact touches.questions_eq

theorem questions_answered (gate : Gate) (exchange : Exchange) (answer : Answer) :
    (gate.answered exchange answer).askers.map Asker.question =
      gate.askers.map Asker.question := by
  have delivered : ((gate.removePending exchange.question.id).deliver exchange.asker
      answer).askers.map Asker.question = gate.askers.map Asker.question := by
    obtain ⟨woken, same⟩ :=
      deliver_frame (gate.removePending exchange.question.id) exchange.asker answer
    rw [same]
    exact questions_updateAsker (gate.removePending exchange.question.id) exchange.asker
      fun _ _ => rfl
  exact (touches_releaseOf _ exchange []).questions_eq.trans delivered

/-- The questions of the askers are those that were asked. -/
theorem Orderly.questions_step (orderly : gate.Orderly []) (move : Move) :
    (gate.step move).askers.map Asker.question =
      gate.askers.map Asker.question ++ (move.asked?.map Prod.snd).toList := by
  obtain ⟨first, drained, next, streamed⟩ := touches_reading gate
  have none : ∀ {later : Gate},
      later.askers.map Asker.question = gate.askers.map Asker.question →
        later.askers.map Asker.question = gate.askers.map Asker.question ++ [] :=
    fun same => same.trans (List.append_nil _).symm
  cases move with
  | ask context question => exact List.map_append
  | poll id => exact none (questions_poll gate id)
  | drop id => exact none (touches_drop gate id).questions_eq
  | submit answer =>
    refine none ?_
    simp only [Gate.step]
    rcases orderly.refused_or_taken answer with ⟨_, same⟩ | ⟨exchange, -, -, same⟩
    · rw [same]
    · rw [same]
      exact questions_answered gate exchange answer
  | takeSeat =>
    obtain ⟨_, same⟩ := takeSeat_frame gate
    refine none ?_
    rw [Gate.step, same]
  | tryNext => exact none first.questions_eq
  | drain => exact none drained.questions_eq
  | pollNext => exact none next.questions_eq
  | pollStream => exact none streamed.questions_eq
  | shutdown =>
    obtain ⟨_, _, _, _, _, -, same⟩ := shutdown_frame gate
    refine none ?_
    rw [Gate.step, same]
  | _ => exact none rfl

/-- Whoever is there after a move was there before, or asks by this move. -/
theorem Orderly.arrival_or_passage (orderly : gate.Orderly []) {move : Move} {after : Asker}
    (isAfter : (gate.step move).askers[id]? = some after) :
    (∃ context question, move = .ask context question ∧ id = gate.askers.length ∧
        after = { question, context, stage := .unheard, reply := none }) ∨
      ∃ before, gate.askers[id]? = some before ∧ Passage gate id before move after := by
  cases known : gate.askers[id]? with
  | some before =>
    obtain ⟨current, isCurrent, passage⟩ := orderly.passage known move
    rw [isAfter, Option.some_inj] at isCurrent
    exact Or.inr ⟨before, rfl, isCurrent ▸ passage⟩
  | none =>
    have beyond := List.getElem?_eq_none_iff.mp known
    have within := (List.getElem?_eq_some_iff.mp isAfter).1
    have lengths := congrArg List.length (orderly.questions_step move)
    rw [List.length_append, List.length_map, List.length_map] at lengths
    rw [lengths] at within
    cases move with
    | ask context question =>
      have isLast : id = gate.askers.length :=
        Nat.le_antisymm (Nat.le_of_lt_succ within) beyond
      refine Or.inl ⟨context, question, rfl, isLast, ?_⟩
      have found : (gate.askers ++ [_])[id]? = some after := isAfter
      rw [isLast, List.getElem?_concat_length, Option.some_inj] at found
      exact found.symm
    | _ => exact absurd within (Nat.not_lt.mpr beyond)

theorem questions_run (settings : GateSettings) (moves : List Move) :
    ((new settings).run moves).askers.map Asker.question = (asked moves).map Prod.snd := by
  refine run_invariant (fun moves gate =>
    gate.askers.map Asker.question = (asked moves).map Prod.snd) (new settings) rfl ?_ moves
  intro moves move before
  rw [(orderly_run settings moves).questions_step move, before, asked, asked,
    List.filterMap_append, List.map_append]
  cases move <;> rfl

/-! ### Exchanges and history -/

/-- Nobody registered and nobody was answered. -/
structure Quiet (gate later : Gate) : Prop where
  history : later.history = gate.history
  registered : later.registered = gate.registered
  pending : (later.pending.map Exchange.unslotted).Sublist (gate.pending.map Exchange.unslotted)

theorem Touches.quiet {later : Gate} {busy : List AskerId} (touches : gate.Touches later busy) :
    gate.Quiet later :=
  ⟨congrArg Surroundings.history touches.surroundings, touches.registered, touches.pending⟩

/-- What a move does to exchanges and history. -/
inductive Event (gate : Gate) (move : Move) : Prop where
  | quiet (unregistered : gate.registration? move = none) (unanswered : gate.receipt? move = none)
    (quiet : gate.Quiet (gate.step move))
  | registers (id : AskerId) (asker : Asker) (isPoll : move = .poll id)
    (known : gate.askers[id]? = some asker) (admitted : gate.admits asker)
    (quiet : (gate.enroll id asker).Quiet (gate.step move))
  | accepts (exchange : Exchange) (answer : Answer) (isSubmit : move = .submit answer)
    (found : gate.find? answer.questionId = some exchange)
    (admissible : exchange.question.refusal? answer = none)
    (same : gate.submit answer = (gate.answered exchange answer, .ok ()))

theorem registration?_of_admits (known : gate.askers[id]? = some asker)
    (admitted : gate.admits asker) :
    gate.registration? (.poll id) =
      some { exchange := gate.entry id asker.question, time := gate.now } := by
  rw [registration?, known, Option.bind_some, if_pos admitted]

theorem registration?_of_turnedAway
    (turnedAway : ∀ asker, gate.askers[id]? = some asker → ¬gate.admits asker) :
    gate.registration? (.poll id) = none := by
  simp only [registration?]
  cases known : gate.askers[id]? with
  | none => rfl
  | some asker => exact if_neg (turnedAway asker known)

/-- Only an asker that has its first turn registers a question. -/
theorem admits_of_registration? {move : Move} {registration : Registration}
    (registers : gate.registration? move = some registration) :
    ∃ asker, move = .poll registration.exchange.asker ∧
      gate.askers[registration.exchange.asker]? = some asker ∧ gate.admits asker := by
  cases move with
  | poll id =>
    obtain ⟨asker, known, registered⟩ := Option.bind_eq_some_iff.mp registers
    split at registered
    · next admitted =>
      cases registered
      exact ⟨asker, rfl, known, admitted⟩
    · cases registered
  | _ => cases registers

theorem receipt?_of_accepted {exchange : Exchange} {answer : Answer}
    (found : gate.find? answer.questionId = some exchange)
    (accepted : (gate.submit answer).2 = .ok ()) :
    gate.receipt? (.submit answer) = some { exchange, answer, time := gate.wallClock } := by
  simp only [receipt?, found, accepted]

theorem receipt?_of_error {answer : Answer} {failure : AskFailure}
    (refused : (gate.submit answer).2 = .error failure) :
    gate.receipt? (.submit answer) = none := by
  simp only [receipt?, refused]
  split
  · next isOk => cases isOk
  · rfl

/-- Every move is quiet, or registers a question, or is an answer that is accepted. -/
theorem Orderly.event (orderly : gate.Orderly []) (move : Move) : gate.Event move := by
  obtain ⟨first, drained, next, streamed⟩ := touches_reading gate
  have untouched : ∀ {later : Gate}, later.history = gate.history →
      later.registered = gate.registered → later.pending = gate.pending → gate.Quiet later :=
    fun history registered pending =>
      ⟨history, registered, by simp only [pending, List.Sublist.refl]⟩
  cases move with
  | poll id =>
    rcases poll_cases gate id with ⟨asker, known, admitted, touches⟩ | ⟨turnedAway, touches⟩
    · exact .registers id asker rfl known admitted touches.quiet
    · exact .quiet (registration?_of_turnedAway turnedAway) rfl touches.quiet
  | drop id => exact .quiet rfl rfl (touches_drop gate id).quiet
  | submit answer =>
    rcases orderly.refused_or_taken answer with ⟨_, same⟩ | ⟨exchange, found, admissible, same⟩
    · refine .quiet rfl (receipt?_of_error (congrArg Prod.snd same)) ?_
      simp only [Gate.step, same]
      exact untouched rfl rfl rfl
    · exact .accepts exchange answer rfl found admissible same
  | takeSeat =>
    obtain ⟨_, same⟩ := takeSeat_frame gate
    refine .quiet rfl rfl ?_
    rw [Gate.step, same]
    exact untouched rfl rfl rfl
  | tryNext => exact .quiet rfl rfl first.quiet
  | drain => exact .quiet rfl rfl drained.quiet
  | pollNext => exact .quiet rfl rfl next.quiet
  | pollStream => exact .quiet rfl rfl streamed.quiet
  | shutdown =>
    obtain ⟨_, _, _, _, _, fewer, same⟩ := shutdown_frame gate
    refine .quiet rfl rfl ?_
    rw [Gate.step, same]
    exact ⟨rfl, rfl, fewer.map _⟩
  | _ => exact .quiet rfl rfl (untouched rfl rfl rfl)

end OperatorDesk.Gate
