/-
This file follows an answer that was taken to the asker that waits for it. An asker that listens
hears it in its next turn, and so does one whose context has ended. An asker that still waits for
a slot does not look for its reply: it hears the answer once a slot is handed to it or its context
ends, but if the gate is shut down before, it ends with that failure and the answer is lost.
-/

import OperatorDesk.Proofs.Gate.Course
import OperatorDesk.Proofs.Gate.Rest

namespace OperatorDesk

/-- What has been heard of a context stays heard. -/
theorem Context.signal_mono {context : Context} {used usedLater : List Token}
    {served servedLater : Nat}
    (more : ∀ token ∈ used, token ∈ usedLater) (longer : served ≤ servedLater)
    (heard : context.signal used served ≠ none) :
    context.signal usedLater servedLater ≠ none := by
  intro silent
  obtain ⟨noToken, noTimer⟩ := Option.or_eq_none_iff.mp silent
  refine heard (Option.or_eq_none_iff.mpr ⟨?_, ?_⟩)
  · unfold cancelSignal at noToken ⊢
    split at noToken
    · split at noToken
      · cases noToken
      · next unused => exact if_neg fun before => unused (more _ before)
    · rfl
  · unfold timerSignal at noTimer ⊢
    split at noTimer
    · split at noTimer
      · cases noTimer
      · next early => exact if_neg fun due => early (Nat.le_trans due longer)
    · rfl

namespace Gate

variable {gate : Gate} {id : AskerId} {asker : Asker} {answer : Answer}

/-! ### Askers with a reply -/

/-- The next turn of an asker that has a reply ends the ask, except in line. Only an asker that
listens or whose context has ended is sure to hear the reply. -/
theorem destination_of_reply {number : Nat} (reply : asker.reply = some answer)
    (waits : asker.stage.number? = some number) :
    gate.destination asker =
      if asker.stage = .listening number ∨ asker.context.signal gate.used gate.served ≠ none then
        .ended (.answered answer)
      else if gate.closed then .ended (.failed .closed)
      else if asker.stage = .inLine number then .inLine number
      else .ended (.answered answer) := by
  have listened : ∀ number, gate.afterListening asker number = .ended (.answered answer) := by
    intro number
    simp only [afterListening, reply]
  have granted : gate.afterGrant asker number = .ended (.answered answer) := by
    rw [afterGrant, if_neg fun silent => by rw [reply] at silent; cases silent.1]
    exact listened number
  have concluded : ∀ ending, gate.conclusion asker ending = .answered answer := by
    intro ending
    simp only [conclusion, reply]
  unfold Gate.destination
  cases stage : asker.stage with
  | unheard => rw [stage] at waits; cases waits
  | ended outcome => rw [stage] at waits; cases waits
  | listening other =>
    rw [stage] at waits
    cases waits
    simp only [listened, true_or, if_true]
  | inLine other =>
    rw [stage] at waits
    cases waits
    cases hears : asker.context.signal gate.used gate.served with
    | some ending => simp [concluded]
    | none => simp
  | granted other =>
    rw [stage] at waits
    cases waits
    cases hears : asker.context.signal gate.used gate.served with
    | some ending => simp [concluded]
    | none => simp [granted]

/-! ### What can become of an accepted answer -/

/-- The stages of an asker that had its answer some moves ago. -/
inductive Fate (id : AskerId) (answer : Answer) (moves : List Move) : Stage → Prop where
  | waits {stage : Stage} (number : Nat) (hasNumber : stage.number? = some number) :
    Fate id answer moves stage
  | heard : Fate id answer moves (.ended (.answered answer))
  | dropped (isDropped : .drop id ∈ moves) : Fate id answer moves (.ended .dropped)
  | closed (isClosed : .shutdown ∈ moves) : Fate id answer moves (.ended (.failed .closed))

theorem Fate.concat {moves : List Move} {stage : Stage} (fate : Fate id answer moves stage)
    (move : Move) : Fate id answer (moves ++ [move]) stage := by
  cases fate with
  | waits number hasNumber => exact .waits number hasNumber
  | heard => exact .heard
  | dropped isDropped => exact .dropped (List.mem_append_left _ isDropped)
  | closed isClosed => exact .closed (List.mem_append_left _ isClosed)

theorem Fate.number_of_unended {moves : List Move} {stage : Stage}
    (fate : Fate id answer moves stage) (unended : ∀ outcome, stage ≠ .ended outcome) :
    ∃ number, stage.number? = some number := by
  cases fate with
  | waits number hasNumber => exact ⟨number, hasNumber⟩
  | heard => exact absurd rfl (unended _)
  | dropped => exact absurd rfl (unended _)
  | closed => exact absurd rfl (unended _)

/-- A move leads an asker that has its answer from one of these stages to another. -/
theorem Fate.passage {moves : List Move} (fate : Fate id answer moves asker.stage)
    (reply : asker.reply = some answer) (shut : gate.closed = true → .shutdown ∈ moves)
    {move : Move} {after : Asker} (passage : Passage gate id asker move after) :
    after.reply = some answer ∧ Fate id answer (moves ++ [move]) after.stage := by
  by_cases isEnded : ∃ outcome, asker.stage = .ended outcome
  · obtain ⟨outcome, ended⟩ := isEnded
    rw [passage.eq_of_ended ended]
    exact ⟨reply, fate.concat move⟩
  have unended : ∀ outcome, asker.stage ≠ .ended outcome :=
    fun outcome ended => isEnded ⟨outcome, ended⟩
  obtain ⟨number, hasNumber⟩ := fate.number_of_unended unended
  cases passage with
  | stays => exact ⟨reply, fate.concat move⟩
  | handed =>
    exact ⟨(congrArg Prod.snd asker.said_handed).trans reply,
      .waits number (asker.number?_handed.trans hasNumber)⟩
  | turned =>
    refine ⟨(gate.reply_prepared asker).trans reply, ?_⟩
    show Fate id answer _ (gate.destination asker)
    rw [destination_of_reply reply hasNumber]
    split
    · exact .heard
    split
    · next isClosed => exact .closed (List.mem_append_left _ (shut isClosed))
    split
    · exact .waits number rfl
    · exact .heard
  | dropped =>
    rw [Asker.stage_abandoned unended]
    exact ⟨reply, .dropped (List.mem_append_right _ (List.mem_singleton_self _))⟩
  | answered exchange other found accepted isOwn owns =>
    rw [owns.reply] at reply
    cases reply

/-- An asker that has its answer waits on, hears it, is dropped, or is sent away by the closing. -/
theorem Orderly.fate_run (orderly : gate.Orderly []) (stillOpen : gate.closed = false)
    (known : gate.askers[id]? = some asker) (reply : asker.reply = some answer) {number : Nat}
    (waits : asker.stage.number? = some number) (moves : List Move) :
    ∃ later, (gate.run moves).askers[id]? = some later ∧ later.reply = some answer ∧
      Fate id answer moves later.stage := by
  refine run_invariant (fun moves current => ∃ later, current.askers[id]? = some later ∧
    later.reply = some answer ∧ Fate id answer moves later.stage) gate
    ⟨asker, known, reply, .waits number waits⟩ ?_ moves
  rintro moves move ⟨before, isBefore, hasReply, fate⟩
  have ordered := (orderly.run moves).1
  have shut : (gate.run moves).closed = true → .shutdown ∈ moves := by
    intro isClosed
    refine ((orderly.closed_run moves).mp isClosed).resolve_left ?_
    rw [stillOpen]
    exact Bool.false_ne_true
  obtain ⟨after, isAfter, passage⟩ := ordered.passage isBefore move
  exact ⟨after, isAfter, fate.passage hasReply shut passage⟩

/-! ### Answers that are sure to be heard -/

/-- The asker goes on to hear the answer, whatever happens, unless its agent drops it. -/
def Reaches (gate : Gate) (id : AskerId) (answer : Answer) : Prop :=
  ∀ moves, .drop id ∉ moves →
    (∀ failure, (gate.run moves).stage? id ≠ some (.ended (.failed failure))) ∧
      ((gate.run moves).AtRest →
        (gate.run moves).stage? id = some (.ended (.answered answer)))

/-- The asker looks at its reply in its next turn, or has heard it. -/
structure Secured (gate : Gate) (answer : Answer) (asker : Asker) : Prop where
  reply : asker.reply = some answer
  place : asker.stage = .ended (.answered answer) ∨ ∃ number, asker.stage.number? = some number ∧
    (asker.stage = .listening number ∨ asker.context.signal gate.used gate.served ≠ none)

theorem Orderly.signal_step (orderly : gate.Orderly []) (context : Context) (move : Move)
    (heard : context.signal gate.used gate.served ≠ none) :
    context.signal (gate.step move).used (gate.step move).served ≠ none := by
  have environment := orderly.environment_step move
  have used : (gate.step move).used = (gate.environment.step move).used :=
    congrArg Environment.used environment
  have served : (gate.step move).served = (gate.environment.step move).served :=
    congrArg Environment.served environment
  rw [used, served]
  refine Context.signal_mono ?_ ?_ heard
  · intro token before
    cases move <;> first | exact before | exact List.mem_cons_of_mem _ before
  · cases move <;> first | exact Nat.le_refl _ | exact orderly.served

/-- An asker that is sure to hear its reply stays so until it is dropped. -/
theorem Secured.passage (secured : gate.Secured answer asker) (orderly : gate.Orderly [])
    {move : Move} (kept : move ≠ .drop id) {after : Asker}
    (passage : Passage gate id asker move after) : (gate.step move).Secured answer after := by
  obtain ⟨reply, heard | ⟨number, hasNumber, place⟩⟩ := secured
  · rw [passage.eq_of_ended heard]
    exact ⟨reply, Or.inl heard⟩
  have still := orderly.signal_step asker.context move
  cases passage with
  | stays => exact ⟨reply, Or.inr ⟨number, hasNumber, place.imp_right still⟩⟩
  | handed =>
    refine ⟨(congrArg Prod.snd asker.said_handed).trans reply,
      Or.inr ⟨number, asker.number?_handed.trans hasNumber, ?_⟩⟩
    rw [show asker.handed.context = asker.context by unfold Asker.handed; split <;> rfl]
    refine place.imp (fun stage => ?_) still
    rw [Asker.handed_of_ne fun _ same => by rw [stage] at same; cases same]
    exact stage
  | turned =>
    refine ⟨(gate.reply_prepared asker).trans reply, Or.inl ?_⟩
    show gate.destination asker = _
    rw [destination_of_reply reply hasNumber, if_pos place]
  | dropped => exact absurd rfl kept
  | answered exchange other found accepted isOwn owns =>
    rw [owns.reply] at reply
    cases reply

theorem Secured.reaches (secured : gate.Secured answer asker) (orderly : gate.Orderly [])
    (known : gate.askers[id]? = some asker) : gate.Reaches id answer := by
  intro moves undropped
  have kept : .drop id ∉ moves → ∃ later, (gate.run moves).askers[id]? = some later ∧
      (gate.run moves).Secured answer later := by
    refine run_invariant (fun moves current => .drop id ∉ moves → ∃ later,
      current.askers[id]? = some later ∧ current.Secured answer later) gate
      (fun _ => ⟨asker, known, secured⟩) ?_ moves
    intro moves move before undropped
    obtain ⟨notBefore, notLast⟩ := not_or.mp (fun member => undropped (List.mem_append.mpr member))
    obtain ⟨current, isCurrent, isSecured⟩ := before notBefore
    have ordered := (orderly.run moves).1
    obtain ⟨after, isAfter, passage⟩ := ordered.passage isCurrent move
    exact ⟨after, isAfter, isSecured.passage ordered
      (fun same => notLast (List.mem_singleton.mpr same.symm)) passage⟩
  obtain ⟨later, isLater, reply, place⟩ := kept undropped
  rw [stage?, isLater, Option.map_some]
  rcases place with heard | ⟨number, hasNumber, place⟩
  · rw [heard]
    exact ⟨fun _ same => (by cases same), fun _ => rfl⟩
  · constructor
    · intro failure same
      rw [Option.some_inj.mp same] at hasNumber
      cases hasNumber
    · intro atRest
      obtain ⟨-, stays⟩ := atRest.destination (orderly.run moves).1 isLater
      rw [← stays, destination_of_reply reply hasNumber, if_pos place]

/-- An asker that waits for a slot and whose context goes on loses its reply if the gate is shut
down before its next turn. -/
theorem Orderly.not_reaches (orderly : gate.Orderly []) (known : gate.askers[id]? = some asker)
    (reply : asker.reply = some answer) {number : Nat}
    (waits : asker.stage.number? = some number)
    (elsewhere : ¬(asker.stage = .listening number ∨
      asker.context.signal gate.used gate.served ≠ none)) :
    ¬gate.Reaches id answer := by
  intro reaches
  have environment := orderly.environment_step .shutdown
  have isClosed : gate.shutdown.closed = true := congrArg Environment.closed environment
  have used : gate.shutdown.used = gate.used := congrArg Environment.used environment
  have served : gate.shutdown.served = gate.served := congrArg Environment.served environment
  have known : gate.shutdown.askers[id]? = some asker := by
    obtain ⟨_, _, _, _, _, -, same⟩ := shutdown_frame gate
    rw [same]
    exact known
  have heard : asker.stage ≠ .unheard := by
    intro unheard
    rw [unheard] at waits
    cases waits
  have lost : (gate.run [.shutdown, .poll id]).stage? id = some (.ended (.failed .closed)) := by
    show (gate.shutdown.poll id).stage? id = _
    rw [stage?, orderly.shutdown.askers_poll known, Option.map_some,
      destination_of_reply reply waits, used, served, if_neg elsewhere, if_pos isClosed]
  exact (reaches [.shutdown, .poll id] (by simp)).1 .closed lost

/-- At rest an asker that has its answer and has not ended stands in line, and all slots are held
by questions that nobody has read. -/
theorem AtRest.starved {number : Nat} (atRest : gate.AtRest) (orderly : gate.Orderly [])
    (known : gate.askers[id]? = some asker) (reply : asker.reply = some answer)
    (waits : asker.stage.number? = some number) :
    asker.stage = .inLine number ∧ gate.held = gate.slots := by
  obtain ⟨-, stays⟩ := atRest.destination orderly known
  rw [destination_of_reply reply waits] at stays
  have unended : ∀ outcome, Stage.ended outcome ≠ asker.stage := by
    intro outcome same
    rw [← same] at waits
    cases waits
  split at stays
  · exact absurd stays (unended _)
  split at stays
  · exact absurd stays (unended _)
  split at stays
  · next inLine =>
    have stage : gate.stage? id = some (.inLine number) := by
      rw [stage?, known, Option.map_some, inLine]
    exact ⟨inLine, (atRest.held_eq_slots orderly stage).2⟩
  · exact absurd stays (unended _)

/-- An accepted answer is sure to reach its asker exactly if the asker listened or its context had
ended when the answer was given. Otherwise the asker may stay in line while all slots are held, or
be sent away by the closing. -/
theorem accepted_answer_reaches_iff (settings : GateSettings) (before : List Move) {gate : Gate}
    (reached : (new settings).run before = gate) {answer : Answer}
    (accepted : (gate.submit answer).2 = .ok ()) :
    ∃ exchange asker, gate.find? answer.questionId = some exchange ∧
      gate.askers[exchange.asker]? = some asker ∧
      ((gate.submit answer).1.Reaches exchange.asker answer ↔
        asker.stage = .listening exchange.number ∨
          asker.context.signal gate.used gate.served ≠ none) ∧
      ∀ moves, ∃ stage,
        ((gate.submit answer).1.run moves).stage? exchange.asker = some stage ∧
        Fate exchange.asker answer moves stage ∧
        (((gate.submit answer).1.run moves).AtRest → ∀ number, stage.number? = some number →
          stage = .inLine number ∧
            ((gate.submit answer).1.run moves).held = max settings.capacity 1) := by
  have orderly : gate.Orderly [] := reached ▸ orderly_run settings before
  have slots : gate.slots = max settings.capacity 1 := reached ▸ slots_run settings before
  rcases orderly.refused_or_taken answer with ⟨_, same⟩ | ⟨exchange, found, -, same⟩
  · rw [same] at accepted
    cases accepted
  have member := mem_of_find? found
  obtain ⟨kept, counted, asker, known, owns, after⟩ := orderly.answered member answer
  have environment := orderly.environment_submit answer
  rw [same] at environment ⊢
  have used : (gate.answered exchange answer).used = gate.used :=
    congrArg Environment.used environment
  have served : (gate.answered exchange answer).served = gate.served :=
    congrArg Environment.served environment
  have stillOpen : (gate.answered exchange answer).closed = false := by
    refine (congrArg Environment.closed environment).trans ?_
    refine Bool.eq_false_iff.mpr fun isClosed => ?_
    rw [(orderly.closing.empty isClosed).1] at member
    cases member
  refine ⟨exchange, asker, found, known, ⟨fun reaches => ?_, fun place => ?_⟩, fun moves => ?_⟩
  · by_contra elsewhere
    rw [← used, ← served] at elsewhere
    exact kept.not_reaches after rfl owns.number elsewhere reaches
  · have secured : (gate.answered exchange answer).Secured answer
        { asker with reply := some answer } := by
      refine ⟨rfl, Or.inr ⟨exchange.number, owns.number, ?_⟩⟩
      rw [used, served]
      exact place
    exact secured.reaches kept after
  · obtain ⟨later, isLater, reply, fate⟩ := kept.fate_run stillOpen after rfl owns.number moves
    obtain ⟨ordered, recounted⟩ := kept.run moves
    refine ⟨later.stage, by rw [stage?, isLater, Option.map_some], fate, ?_⟩
    intro atRest number waits
    obtain ⟨inLine, all⟩ := atRest.starved ordered isLater reply waits
    exact ⟨inLine, all.trans (recounted.trans (counted.trans slots))⟩

/-- The first question of the crowded gate holds the slot, so its answer is sure to be heard. -/
theorem accepted_answer_reaches_listening :
    (crowded.submit (declining "Q-1")).1.Reaches 0 (declining "Q-1") := by
  have reached : (new { capacity := 0, defaultTimeout := none }).run crowding = crowded := rfl
  have accepted : (crowded.submit (declining "Q-1")).2 = .ok () := by decide
  obtain ⟨exchange, asker, found, known, reaches, -⟩ :=
    accepted_answer_reaches_iff _ crowding reached accepted
  have isExchange : crowded.find? "Q-1" = some
      { number := 1, question := .plain "Q-1" "Which store?", asker := 0, holdsSlot := true,
        askedAt := .epoch } := by decide
  obtain rfl := Option.some_inj.mp (found.symm.trans isExchange)
  have isAsker : crowded.askers[0]? = some
      { question := .plain "Q-1" "Which store?", context := .background, stage := .listening 1,
        reply := none } := by decide
  obtain rfl := Option.some_inj.mp (known.symm.trans isAsker)
  exact reaches.mpr (Or.inl rfl)

/-- The second question waits for the slot. Its answer is accepted, and then nobody can go on while
the ask has not ended; if the gate is shut down after that, the ask ends without the answer. -/
theorem accepted_answer_lost_in_line :
    (crowded.find? "Q-2").map Exchange.asker = some 1 ∧
      (crowded.submit (declining "Q-2")).2 = .ok () ∧
      (crowded.submit (declining "Q-2")).1.AtRest ∧
      (crowded.submit (declining "Q-2")).1.stage? 1 = some (.inLine 2) ∧
      ((crowded.submit (declining "Q-2")).1.run [.shutdown, .poll 1]).stage? 1 =
        some (.ended (.failed .closed)) ∧
      ¬(crowded.submit (declining "Q-2")).1.Reaches 1 (declining "Q-2") := by
  have lost : ((crowded.submit (declining "Q-2")).1.run [.shutdown, .poll 1]).stage? 1 =
      some (.ended (.failed .closed)) := by decide
  refine ⟨by decide, by decide, by decide, by decide, lost, fun reaches => ?_⟩
  exact (reaches [.shutdown, .poll 1] (by decide)).1 .closed lost

end Gate

end OperatorDesk
