/-
This file says what a move can do to the surroundings of an asker and to the asker itself. The
clock, the cancellations and the closing depend on the moves alone. An asker changes only when it
takes its turn, when its agent drops it, when its question is answered and when a slot is handed
to it, and in each case in one way.
-/

import OperatorDesk.Proofs.Gate.Ending
import OperatorDesk.Proofs.Gate.Moves

namespace OperatorDesk

/-- What askers see of the gate apart from its exchanges and slots. -/
structure Environment where
  settings : GateSettings
  used : List Token
  closed : Bool
  now : Nat
  served : Nat

/-- What a move does to the surroundings of all askers. -/
def Environment.step (environment : Environment) : Gate.Move → Environment
  | .cancel token => { environment with used := token :: environment.used }
  | .elapse duration => { environment with now := environment.now + duration }
  | .serveTimers => { environment with served := environment.now }
  | .shutdown => { environment with closed := true }
  | _ => environment

/-- The asker after its agent dropped it. -/
def Asker.abandoned (asker : Asker) : Asker :=
  { asker with
    stage := match asker.stage with
      | .ended outcome => .ended outcome
      | _ => .ended .dropped }

theorem Asker.stage_abandoned {asker : Asker}
    (unended : ∀ outcome, asker.stage ≠ .ended outcome) :
    asker.abandoned.stage = .ended .dropped := by
  unfold Asker.abandoned
  split
  · next outcome ended => exact absurd ended (unended outcome)
  · rfl

namespace Gate

variable {gate : Gate} {id : AskerId} {asker : Asker}

/-! ### The environment -/

def Surroundings.environment (surroundings : Surroundings) : Environment :=
  { settings := surroundings.settings, used := surroundings.used, closed := surroundings.closed,
    now := surroundings.now, served := surroundings.served }

def environment (gate : Gate) : Environment :=
  gate.surroundings.environment

theorem Touches.environment_eq {later : Gate} {busy : List AskerId}
    (touches : gate.Touches later busy) : later.environment = gate.environment :=
  congrArg Surroundings.environment touches.surroundings

theorem environment_poll (gate : Gate) (id : AskerId) :
    (gate.poll id).environment = gate.environment := by
  rcases poll_cases gate id with ⟨_, _, _, touches⟩ | ⟨_, touches⟩
  · exact touches.environment_eq
  · exact touches.environment_eq

theorem Orderly.environment_submit (orderly : gate.Orderly []) (answer : Answer) :
    (gate.submit answer).1.environment = gate.environment := by
  rcases orderly.refused_or_taken answer with ⟨_, same⟩ | ⟨exchange, -, -, same⟩
  · rw [same]
  · obtain ⟨_, _, _, _, frame⟩ := answered_frame gate exchange answer
    rw [same, frame]
    rfl

/-- The environment after a move is known from the move and the environment before. -/
theorem Orderly.environment_step (orderly : gate.Orderly []) (move : Move) :
    (gate.step move).environment = gate.environment.step move := by
  obtain ⟨first, drained, next, streamed⟩ := touches_reading gate
  cases move with
  | poll id => exact environment_poll gate id
  | drop id => exact (touches_drop gate id).environment_eq
  | submit answer => exact orderly.environment_submit answer
  | takeSeat =>
    obtain ⟨_, same⟩ := takeSeat_frame gate
    rw [Gate.step, same]
    rfl
  | tryNext => exact first.environment_eq
  | drain => exact drained.environment_eq
  | pollNext => exact next.environment_eq
  | pollStream => exact streamed.environment_eq
  | shutdown =>
    obtain ⟨_, _, _, _, _, -, same⟩ := shutdown_frame gate
    rw [Gate.step, same]
    rfl
  | _ => rfl

theorem Orderly.environment_run (orderly : gate.Orderly []) (moves : List Move) :
    (gate.run moves).environment = moves.foldl Environment.step gate.environment := by
  induction moves generalizing gate with
  | nil => rfl
  | cons move rest inductionHypothesis =>
    rw [List.foldl_cons, ← orderly.environment_step move]
    exact inductionHypothesis (orderly.step move).1

theorem settings_foldl_step (moves : List Move) (environment : Environment) :
    (moves.foldl Environment.step environment).settings = environment.settings := by
  induction moves generalizing environment with
  | nil => rfl
  | cons move rest inductionHypothesis =>
    rw [List.foldl_cons, inductionHypothesis]
    cases move <;> rfl

theorem mem_used_foldl_step {token : Token} (moves : List Move) (environment : Environment) :
    token ∈ (moves.foldl Environment.step environment).used ↔
      token ∈ environment.used ∨ .cancel token ∈ moves := by
  induction moves generalizing environment with
  | nil => simp
  | cons move rest inductionHypothesis =>
    rw [List.foldl_cons, inductionHypothesis, List.mem_cons, ← or_assoc]
    refine or_congr_left ?_
    cases move <;> simp [Environment.step, or_comm]

theorem closed_foldl_step (moves : List Move) (environment : Environment) :
    (moves.foldl Environment.step environment).closed = true ↔
      environment.closed = true ∨ .shutdown ∈ moves := by
  induction moves generalizing environment with
  | nil => simp
  | cons move rest inductionHypothesis =>
    rw [List.foldl_cons, inductionHypothesis, List.mem_cons, ← or_assoc]
    refine or_congr_left ?_
    cases move <;> simp [Environment.step]

theorem Orderly.settings_run (orderly : gate.Orderly []) (moves : List Move) :
    (gate.run moves).settings = gate.settings :=
  (congrArg Environment.settings (orderly.environment_run moves)).trans
    (settings_foldl_step moves gate.environment)

/-- The tokens that count as used are those that were used. -/
theorem Orderly.mem_used_run (orderly : gate.Orderly []) {token : Token} (moves : List Move) :
    token ∈ (gate.run moves).used ↔ token ∈ gate.used ∨ .cancel token ∈ moves := by
  show token ∈ (gate.run moves).environment.used ↔ _
  rw [orderly.environment_run]
  exact mem_used_foldl_step moves gate.environment

/-- A gate is closed if it was shut down. -/
theorem Orderly.closed_run (orderly : gate.Orderly []) (moves : List Move) :
    (gate.run moves).closed = true ↔ gate.closed = true ∨ .shutdown ∈ moves := by
  show (gate.run moves).environment.closed = true ↔ _
  rw [orderly.environment_run]
  exact closed_foldl_step moves gate.environment

/-! ### One asker -/

/-- What one move can make of an asker. -/
inductive Passage (gate : Gate) (id : AskerId) (asker : Asker) : Move → Asker → Prop where
  | stays (move : Move) : Passage gate id asker move asker
  /-- Somebody gave a slot back. -/
  | handed (move : Move) : Passage gate id asker move asker.handed
  | turned :
    Passage gate id asker (.poll id) { gate.prepared asker with stage := gate.destination asker }
  | dropped : Passage gate id asker (.drop id) asker.abandoned
  | answered (exchange : Exchange) (answer : Answer)
    (found : gate.find? answer.questionId = some exchange)
    (accepted : (gate.submit answer).2 = .ok ()) (isOwn : exchange.asker = id)
    (owns : asker.Owns exchange) :
    Passage gate id asker (.submit answer) { asker with reply := some answer }

theorem WaitsOn.passage {later : Gate} (waits : gate.WaitsOn later id)
    (known : gate.askers[id]? = some asker) (move : Move) :
    ∃ after, later.askers[id]? = some after ∧ Passage gate id asker move after := by
  rcases waits with same | handed
  · exact ⟨asker, same.trans known, .stays move⟩
  · exact ⟨asker.handed, by rw [handed, known, Option.map_some], .handed move⟩

theorem Orderly.passage_poll (orderly : gate.Orderly []) (known : gate.askers[id]? = some asker)
    (other : AskerId) :
    ∃ after, (gate.poll other).askers[id]? = some after ∧
      Passage gate id asker (.poll other) after := by
  by_cases same : id = other
  · subst same
    exact ⟨_, orderly.askers_poll known, .turned⟩
  · have idle : id ∉ [other] := fun member => same (List.mem_singleton.mp member)
    rcases poll_cases gate other with ⟨current, -, -, touches⟩ | ⟨-, touches⟩
    · have enrolled : gate.WaitsOn (gate.enroll other current) id :=
        Or.inl (askers_updateAsker_of_ne _ same _)
      exact (enrolled.trans (touches.others id idle)).passage known _
    · exact (touches.others id idle).passage known _

theorem Orderly.passage_submit (orderly : gate.Orderly [])
    (known : gate.askers[id]? = some asker) (answer : Answer) :
    ∃ after, (gate.submit answer).1.askers[id]? = some after ∧
      Passage gate id asker (.submit answer) after := by
  rcases orderly.refused_or_taken answer with ⟨_, same⟩ | ⟨exchange, found, -, same⟩
  · rw [same]
    exact ⟨asker, known, .stays _⟩
  · have accepted := congrArg Prod.snd same
    rw [same]
    by_cases isOwn : exchange.asker = id
    · obtain ⟨-, -, owner, isOwner, owns, after⟩ :=
        orderly.answered (mem_of_find? found) answer
      rw [isOwn] at isOwner after
      rw [known, Option.some_inj] at isOwner
      subst isOwner
      exact ⟨_, after, .answered exchange answer found accepted isOwn owns⟩
    · exact (waitsOn_answered gate (Ne.symm isOwn) answer).passage known _

/-- An asker passes through every move in one of these ways. -/
theorem Orderly.passage (orderly : gate.Orderly []) (known : gate.askers[id]? = some asker)
    (move : Move) :
    ∃ after, (gate.step move).askers[id]? = some after ∧ Passage gate id asker move after := by
  obtain ⟨first, drained, next, streamed⟩ := touches_reading gate
  have untouched : ∀ {later : Gate}, later.askers = gate.askers → gate.WaitsOn later id :=
    fun same => Or.inl (by rw [same])
  cases move with
  | ask context question =>
    exact ⟨asker, askers_ask_of_known known context question, .stays _⟩
  | poll other => exact orderly.passage_poll known other
  | drop other =>
    by_cases same : id = other
    · subst same
      exact ⟨_, orderly.askers_drop known, .dropped⟩
    · have idle : id ∉ [other] := fun member => same (List.mem_singleton.mp member)
      exact ((touches_drop gate other).others id idle).passage known _
  | submit answer => exact orderly.passage_submit known answer
  | takeSeat =>
    obtain ⟨_, same⟩ := takeSeat_frame gate
    refine (untouched ?_).passage known _
    rw [Gate.step, same]
  | tryNext => exact (first.others id List.not_mem_nil).passage known _
  | drain => exact (drained.others id List.not_mem_nil).passage known _
  | pollNext => exact (next.others id List.not_mem_nil).passage known _
  | pollStream => exact (streamed.others id List.not_mem_nil).passage known _
  | shutdown =>
    obtain ⟨_, _, _, _, _, -, same⟩ := shutdown_frame gate
    refine (untouched ?_).passage known _
    rw [Gate.step, same]
  | _ => exact (untouched rfl).passage known _

/-- An ask that has ended stays as it is. -/
theorem Passage.eq_of_ended {move : Move} {after : Asker} {outcome : Outcome}
    (passage : Passage gate id asker move after) (ended : asker.stage = .ended outcome) :
    after = asker := by
  cases passage with
  | stays => rfl
  | handed => exact Asker.handed_of_ne fun _ same => by rw [ended] at same; cases same
  | turned =>
    have heard : asker.stage ≠ .unheard := by
      rw [ended]
      exact Stage.noConfusion
    have stays : gate.destination asker = asker.stage := by rw [Gate.destination, ended]
    rw [gate.prepared_of_heard heard, stays]
  | dropped =>
    have stays : asker.abandoned.stage = asker.stage := by rw [Asker.abandoned, ended]
    show { asker with stage := asker.abandoned.stage } = asker
    rw [stays]
  | answered _ _ _ _ _ owns =>
    have waits := owns.number
    rw [ended] at waits
    cases waits

end Gate

end OperatorDesk
