/-
This file describes gates at rest. Every asker has had its first turn and is where its next turn
would take it, so no slot is on its way to an asker, and whoever waits in line waits at an open
gate whose slots are all held by pending exchanges. Only the askers that exist have to be looked
at to see that a gate is at rest.
-/

import OperatorDesk.Proofs.Gate.Moves

namespace OperatorDesk.Gate

variable {gate : Gate} {id : AskerId} {asker : Asker}

/-! ### Seeing that a gate is at rest -/

theorem atRest_iff :
    gate.AtRest ↔ gate.dueTimers = [] ∧
      ∀ id < gate.askers.length, gate.stage? id ≠ some .unheard ∧ gate.poll id = gate := by
  refine and_congr Iff.rfl ⟨fun all id _ => all id, fun all id => ?_⟩
  by_cases known : id < gate.askers.length
  · exact all id known
  · have unknown : gate.askers[id]? = none := List.getElem?_eq_none (Nat.not_lt.mp known)
    constructor
    · rw [stage?, unknown]
      exact fun impossible => by cases impossible
    · simp only [Gate.poll, unknown]

instance (gate : Gate) : Decidable gate.AtRest :=
  decidable_of_iff' _ atRest_iff

/-! ### Stages at rest -/

/-- At rest every asker has had its first turn and is where a turn would take it. -/
theorem AtRest.destination (atRest : gate.AtRest) (orderly : gate.Orderly [])
    (known : gate.askers[id]? = some asker) :
    asker.stage ≠ .unheard ∧ gate.destination asker = asker.stage := by
  obtain ⟨heard, same⟩ := atRest.2 id
  have isHeard : asker.stage ≠ .unheard := by
    intro unheard
    rw [stage?, known, Option.map_some, unheard] at heard
    exact heard rfl
  have turned := orderly.askers_poll known
  rw [same, known, gate.prepared_of_heard isHeard, Option.some_inj] at turned
  exact ⟨isHeard, (congrArg Asker.stage turned).symm⟩

theorem AtRest.granted_eq_zero (atRest : gate.AtRest) (orderly : gate.Orderly []) :
    gate.granted = 0 := by
  refine List.countP_eq_zero.mpr fun asker member => ?_
  obtain ⟨id, known⟩ := List.mem_iff_getElem?.mp member
  rw [← (atRest.destination orderly known).2, (gate.halt_destination asker).isGranted_eq_false]
  exact Bool.false_ne_true

/-- A gate at which somebody waits in line at rest is open. -/
theorem AtRest.open_of_inLine {number : Nat} (atRest : gate.AtRest) (orderly : gate.Orderly [])
    (known : gate.askers[id]? = some asker) (stage : asker.stage = .inLine number) :
    gate.closed = false := by
  have stays := (atRest.destination orderly known).2
  refine Bool.eq_false_iff.mpr fun isClosed => ?_
  simp only [Gate.destination, stage, isClosed, if_true] at stays
  cases hears : asker.context.signal gate.used gate.served <;> simp [hears] at stays

/-- While somebody waits in line at rest, pending exchanges hold all slots. -/
theorem AtRest.held_eq_slots {number : Nat} (atRest : gate.AtRest) (orderly : gate.Orderly [])
    (waits : gate.stage? id = some (.inLine number)) : gate.free = 0 ∧ gate.held = gate.slots := by
  obtain ⟨asker, known, stage⟩ := Option.map_eq_some_iff.mp waits
  have stillOpen := atRest.open_of_inLine orderly known stage
  have stands := orderly.inLine.stands id asker number known List.not_mem_nil stage stillOpen
  have none := orderly.inLine.exhausted (List.ne_nil_of_mem stands)
  refine ⟨none, ?_⟩
  rw [slots, none, atRest.granted_eq_zero orderly, Nat.zero_add, Nat.add_zero]

/-! ### A crowded gate -/

/-- Two askers ask and take their first turns. -/
def crowding : List Move :=
  [.ask .background (.plain "Q-1" "Which store?"), .poll 0,
    .ask .background (.plain "Q-2" "Which name?"), .poll 1]

/-- A gate with one slot, which the first question holds, while the second waits for it. -/
def crowded : Gate :=
  (new { capacity := 0, defaultTimeout := none }).run crowding

/-- Declining to decide. -/
def declining (questionId : String) : Answer :=
  { questionId, response := .skip, broadcast := false }

end OperatorDesk.Gate
