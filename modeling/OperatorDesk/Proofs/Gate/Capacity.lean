/-
This file shows that no slot is ever lost, made up or left idle. The free slots, those of pending
exchanges and those that were handed out add up to the capacity throughout, so there are never
more unread letters of pending exchanges than slots. While somebody waits in line no slot is free,
and at rest none is on its way to an asker, so that pending exchanges hold all of them.
-/

import OperatorDesk.Proofs.Gate.Rest
import Mathlib.Data.List.Perm.Subperm

namespace OperatorDesk.Gate

/-! ### Letters and slots -/

/-- The letters in the mailbox whose exchanges are pending. -/
def unread (gate : Gate) : List Letter :=
  gate.mailbox.filter fun letter => gate.isCurrent letter.question.id letter.number

/-- Each letter that is still to be read has an exchange with a slot to itself. -/
theorem Orderly.unread_le_held {gate : Gate} (orderly : gate.Orderly []) :
    gate.unread.length ≤ gate.held := by
  have apart : (gate.unread.map Letter.number).Nodup :=
    List.pairwise_map.mpr (orderly.mail.apart.sublist List.filter_sublist)
  have subset : gate.unread.map Letter.number ⊆
      (gate.pending.filter Exchange.holdsSlot).map Exchange.number := by
    intro number isNumber
    obtain ⟨letter, isUnread, rfl⟩ := List.mem_map.mp isNumber
    obtain ⟨isLetter, current⟩ := List.mem_filter.mp isUnread
    obtain ⟨exchange, member, same⟩ := (orderly.isCurrent_iff isLetter).mp current
    have holds := (orderly.mail.unread letter isLetter exchange member same).1
    exact List.mem_map.mpr ⟨exchange, List.mem_filter.mpr ⟨member, holds⟩, same⟩
  have fewer := (List.subperm_of_subset apart subset).length_le
  rw [List.length_map, List.length_map, ← List.countP_eq_length_filter] at fewer
  exact fewer

/-! ### All slots are accounted for -/

/-- After any run, all slots are free, held or on their way to an asker; there are at most as many
unread letters; and at rest nobody waits in line unless all slots are held. -/
theorem slots_accounted_for (settings : GateSettings) (moves : List Move) {gate : Gate}
    (reached : (new settings).run moves = gate) :
    gate.free + gate.held + gate.granted = max settings.capacity 1 ∧
      gate.unread.length ≤ max settings.capacity 1 ∧
      (gate.AtRest → ∀ id number, gate.stage? id = some (.inLine number) →
        gate.held = max settings.capacity 1) := by
  have orderly : gate.Orderly [] := reached ▸ orderly_run settings moves
  have counted : gate.slots = max settings.capacity 1 := reached ▸ slots_run settings moves
  refine ⟨counted, ?_, ?_⟩
  · have fewer := orderly.unread_le_held
    rw [slots] at counted
    omega
  · intro atRest id number waits
    rw [(atRest.held_eq_slots orderly waits).2]
    exact counted

/-- Of a gate that was set up without a slot the one slot that there is gets held. -/
theorem slots_accounted_for_crowded :
    crowded.AtRest ∧ crowded.stage? 1 = some (.inLine 2) ∧ crowded.held = 1 := by
  have atRest : crowded.AtRest := by decide
  have waits : crowded.stage? 1 = some (.inLine 2) := by decide
  have reached : (new { capacity := 0, defaultTimeout := none }).run crowding = crowded := rfl
  exact ⟨atRest, waits, (slots_accounted_for _ crowding reached).2.2 atRest 1 2 waits⟩

end OperatorDesk.Gate
