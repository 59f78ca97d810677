/-
This file shows that every asker gets the turns it needs. Whoever is restless stands in the line
for turns, from being started or woken until it has its turn. So once nobody stands there and no
timer is due, the gate is at rest.
-/

import OperatorDesk.Proofs.Crew.Course
import OperatorDesk.Proofs.Gate.Waiting
import OperatorDesk.Proofs.Gate.Waking
import OperatorDesk.Proofs.Gate.Withdrawal

namespace OperatorDesk.Crew

variable {crew later : Crew} {deed : Deed} {line : List Turn} {id : AskerId}

/-- Every restless asker stands in the line for turns. -/
def Attends (crew : Crew) : Prop :=
  ∀ id, crew.gate.Restless id → .asker id ∈ crew.ready

section Gathers

variable {gate : Gate} {waiting : List Turn} {moves : List Gate.Move}

theorem Gathers.mem_ready (gathers : Gathers gate waiting moves later)
    (called : .asker id ∈ waiting ∨ .asker id ∈ (gate.run moves).woken) :
    .asker id ∈ later.ready := by
  rw [gathers.ready_eq, mem_lineUp]
  exact called.imp_right fun woken => List.mem_map.mpr ⟨_, woken, rfl⟩

theorem Gathers.restless (gathers : Gathers gate waiting moves later)
    (restless : later.gate.Restless id) : (gate.run moves).Restless id := by
  rw [gathers.gate_eq] at restless
  exact restless.of_same rfl rfl

end Gathers

/-- A move leaves nobody restless who is neither in line nor about to get in, if it starts no
ask. -/
theorem Attends.called (attends : crew.Attends) (orderly : crew.gate.Orderly [])
    (queues : crew.Queues line id) {move : Gate.Move} (keeps : move ≠ .takeWakes)
    (asksNothing : ∀ context question, move ≠ .ask context question)
    (restless : (crew.gate.step move).Restless id) :
    .asker id ∈ line ∨ .asker id ∈ (crew.gate.step move).woken := by
  rcases orderly.restless_step keeps restless with before | woken | ⟨-, _, _, isAsk⟩
  · exact Or.inl (queues.stays (attends id before))
  · exact Or.inr woken
  · exact absurd isAsk (asksNothing _ _)

/-- Nobody is restless after a turn of its own. -/
theorem ne_of_restless_of_own {asker : AskerId} {move : Gate.Move}
    (orderly : crew.gate.Orderly []) (own : move = .poll asker ∨ move = .drop asker)
    (restless : (crew.gate.step move).Restless id) : Turn.asker asker ≠ .asker id := by
  intro same
  obtain rfl := Turn.asker.inj same
  exact orderly.not_restless_of_own own restless

/-- A deed leaves nobody restless outside the line. -/
theorem Effect.attends {moves : List Gate.Move} (effect : crew.Effect later deed moves)
    (attends : crew.Attends) (orderly : crew.gate.Orderly []) (untold : crew.gate.woken = []) :
    later.Attends := by
  intro id restless
  cases effect with
  | starts _ turns gate ready =>
    rw [gate] at restless
    rw [ready, mem_lineUp]
    exact Or.inl (attends id restless)
  | idles turn rest first other turns gate ready =>
    rw [gate] at restless
    have queues : crew.Queues rest id := Or.inr ⟨turn, first, other id⟩
    rw [ready, mem_lineUp]
    exact Or.inl (queues.stays (attends id restless))
  | asks context question gate ready =>
    rw [gate] at restless
    have asked : (crew.gate.step (.ask context question)).Restless id := restless.of_same rfl rfl
    rw [ready, mem_lineUp]
    rcases orderly.restless_step Gate.Move.noConfusion asked with
      before | woken | ⟨isNew, -⟩
    · exact Or.inl (attends id before)
    · exact Or.inr (List.mem_append_left _ (List.mem_map.mpr ⟨_, woken, rfl⟩))
    · exact Or.inr (List.mem_append_right _ (List.mem_singleton.mpr (by rw [isNew])))
  | operates move outside gathers =>
    refine gathers.mem_ready
      (attends.called orderly (Or.inl rfl) ?_ ?_ (gathers.restless restless))
    · rintro rfl
      cases outside
    · rintro _ _ rfl
      cases outside
  | serves turns gate ready due =>
    rw [gate] at restless
    have served : (crew.gate.step .serveTimers).Restless id := restless.of_same rfl rfl
    rw [ready, mem_lineUp]
    refine (attends.called orderly (Or.inl rfl) Gate.Move.noConfusion
      (fun _ _ => Gate.Move.noConfusion) served).imp_right fun woken => ?_
    rw [Gate.step, Gate.serveTimers, untold, List.nil_append, List.mem_map] at woken
    obtain ⟨timer, isDue, same⟩ := woken
    obtain rfl := Wake.asker.inj same
    exact due timer (List.mem_mergeSort.mp isDue)
  | goesOn asker rest first move own gathers =>
    have moved := gathers.restless restless
    have different := ne_of_restless_of_own orderly own moved
    refine gathers.mem_ready (attends.called orderly (Or.inr ⟨_, first, different⟩) ?_ ?_ moved)
    · rcases own with rfl | rfl <;> exact Gate.Move.noConfusion
    · rcases own with rfl | rfl <;> exact fun _ _ => Gate.Move.noConfusion
  | reads kind rest first asleep gathers =>
    have read : (crew.gate.step kind.attempt).Restless id :=
      (gathers.restless restless).of_same rfl rfl
    refine gathers.mem_ready
      (attends.called orderly (Or.inr ⟨_, first, Turn.noConfusion⟩) ?_ ?_ read)
    · cases kind <;> exact Gate.Move.noConfusion
    · cases kind <;> exact fun _ _ => Gate.Move.noConfusion
  | arrives index rest first context question gathers =>
    have arrived : ((crew.gate.step (.ask context question)).step
        (.poll crew.gate.askers.length)).Restless id := gathers.restless restless
    have queues : crew.Queues rest id := Or.inr ⟨_, first, Turn.noConfusion⟩
    have asking := (orderly.step (.ask context question)).1
    refine gathers.mem_ready ?_
    rcases asking.restless_step Gate.Move.noConfusion arrived with
      asked | woken | ⟨-, _, _, isAsk⟩
    · rcases orderly.restless_step Gate.Move.noConfusion asked with before | woken | ⟨isNew, -⟩
      · exact Or.inl (queues.stays (attends id before))
      · rw [show (crew.gate.step (.ask context question)).woken = [] from untold] at woken
        cases woken
      · exact absurd arrived (asking.not_restless_of_own (Or.inl (by rw [isNew])))
    · exact Or.inr woken
    · cases isAsk

/-! ### Runs -/

theorem orderly_run (settings : GateSettings) (deeds : List Deed) :
    ((start settings).run deeds).gate.Orderly [] := by
  rw [gate_run_start]
  exact Gate.orderly_run settings _

theorem attends_run (settings : GateSettings) (deeds : List Deed) :
    ((start settings).run deeds).Attends := by
  induction deeds using List.reverseRecOn with
  | nil =>
    rintro id ⟨asker, known, -⟩
    cases known
  | append_singleton deeds deed inductionHypothesis =>
    have untold := untold_run_start settings deeds
    rw [run_concat]
    exact (effect_step untold deed).attends inductionHypothesis (orderly_run settings deeds) untold

/-- When nobody is in line for a turn and no timer is due, the gate is at rest. -/
theorem atRest_of_settled {settings : GateSettings} {deeds : List Deed}
    (settled : ((start settings).run deeds).ready = [])
    (served : ((start settings).run deeds).gate.dueTimers = []) :
    ((start settings).run deeds).gate.AtRest := by
  refine (orderly_run settings deeds).atRest_iff_not_restless.mpr ⟨served, fun id restless => ?_⟩
  have isReady := attends_run settings deeds id restless
  rw [settled] at isReady
  cases isReady

/-- Nobody waits for longer than its context and the gate allow. At every gate at rest, those who
still wait for a slot or for a reply do so at an open gate, with a token that was not used and a
deadline that lies ahead; and a gate is at rest whenever its crew has had all turns and the timers
have been served. That the handle of a token is dropped ends nobody's wait: a run comes out the
same without it, but for who has been woken. -/
theorem nobody_outstays (settings : GateSettings) :
    (∀ moves, ((Gate.new settings).run moves).AtRest → ∀ id,
        ((Gate.new settings).run moves).isSuspended id → Gate.MayWait settings moves id) ∧
      (∀ deeds, ((start settings).run deeds).ready = [] →
        ((start settings).run deeds).gate.dueTimers = [] →
          ((start settings).run deeds).gate.AtRest ∧
            ∀ id, ((start settings).run deeds).gate.isSuspended id →
              Gate.MayWait settings ((start settings).course deeds) id) ∧
      ∀ moves, ∃ woken, (Gate.new settings).run moves =
        { (Gate.new settings).run (moves.filter fun move => !move.isDropHandle) with woken } := by
  refine ⟨fun moves atRest id suspended => Gate.mayWait_of_atRest atRest suspended, ?_,
    Gate.run_without_dropHandle (.new settings)⟩
  intro deeds settled served
  have atRest := atRest_of_settled settled served
  refine ⟨atRest, fun id suspended => ?_⟩
  rw [gate_run_start] at atRest suspended
  exact Gate.mayWait_of_atRest atRest suspended

/-- One asker waits for its reply, and another for a slot, while the handle of the first one's token
is dropped and time goes on. -/
def patience : List Deed :=
  [.ask (.cancellable 7) (.plain "Q-1" "Which store?"),
    .ask .background (.plain "Q-2" "Which name?"), .turn, .turn, .operate (.dropHandle 7) rfl,
    .turn, .operate (.elapse 4) rfl]

theorem nobody_outstays_patience :
    ((start Gate.hasty).run patience).gate.stage? 1 = some (.inLine 2) ∧
      ((start Gate.hasty).run patience).gate.AtRest ∧
      Gate.MayWait Gate.hasty ((start Gate.hasty).course patience) 0 ∧
      Gate.MayWait Gate.hasty ((start Gate.hasty).course patience) 1 := by
  have settled : ((start Gate.hasty).run patience).ready = [] := by decide
  have served : ((start Gate.hasty).run patience).gate.dueTimers = [] := by decide
  obtain ⟨atRest, mayWait⟩ := (nobody_outstays Gate.hasty).2.1 patience settled served
  refine ⟨by decide, atRest, mayWait 0 ⟨_, rfl, fun _ ended => by cases ended⟩,
    mayWait 1 ⟨_, rfl, fun _ ended => by cases ended⟩⟩

end OperatorDesk.Crew
