/-
This file counts slots. A slot is free, or a pending exchange holds it, or it was handed to an
asker that has not run since. Giving a slot back adds one to this sum, wherever it goes; moving an
asker between stages changes the sum only by the slots that were handed out.
-/

import OperatorDesk.Proofs.Gate.Pending

namespace OperatorDesk

/-- The number under which an asker waits. -/
def Stage.number? : Stage → Option Nat
  | .inLine number => some number
  | .granted number => some number
  | .listening number => some number
  | _ => none

/-- An asker that has run and not ended waits under a number. -/
theorem Stage.exists_number {stage : Stage} (heard : stage ≠ .unheard)
    (unended : ∀ outcome, stage ≠ .ended outcome) : ∃ number, stage.number? = some number := by
  cases stage with
  | unheard => exact absurd rfl heard
  | ended outcome => exact absurd rfl (unended outcome)
  | inLine number => exact ⟨number, rfl⟩
  | granted number => exact ⟨number, rfl⟩
  | listening number => exact ⟨number, rfl⟩

/-- A slot was handed out and not used yet. -/
def Stage.isGranted : Stage → Bool
  | .granted _ => true
  | _ => false

theorem Asker.isWaiting_eq_isSome (asker : Asker) :
    asker.isWaiting = asker.stage.number?.isSome := by
  unfold Asker.isWaiting
  cases asker.stage <;> rfl

namespace Gate

/-- The slots that were handed to askers which have not run since. -/
def granted (gate : Gate) : Nat :=
  gate.askers.countP fun asker => asker.stage.isGranted

/-- All slots: the free ones, those of exchanges and those that were handed out. -/
def slots (gate : Gate) : Nat :=
  gate.free + gate.held + gate.granted

/-! ### Changing one asker -/

theorem askers_updateAsker_self {gate : Gate} {id : AskerId} {asker : Asker}
    (known : gate.askers[id]? = some asker) (change : Asker → Asker) :
    (gate.updateAsker id change).askers[id]? = some (change asker) := by
  rw [updateAsker, List.getElem?_modify_eq, known, Option.map_eq_map, Option.map_some]

theorem askers_updateAsker_of_ne (gate : Gate) {id other : AskerId} (different : other ≠ id)
    (change : Asker → Asker) :
    (gate.updateAsker id change).askers[other]? = gate.askers[other]? := by
  rw [updateAsker, List.getElem?_modify_ne _ _ (Ne.symm different)]

/-- Whoever is found after the change is the one that was changed, or was there before. -/
theorem askers_updateAsker_cases {gate : Gate} {id other : AskerId} {asker current : Asker}
    (known : gate.askers[id]? = some asker) {change : Asker → Asker}
    (isCurrent : (gate.updateAsker id change).askers[other]? = some current) :
    other = id ∧ current = change asker ∨
      other ≠ id ∧ gate.askers[other]? = some current := by
  by_cases same : other = id
  · subst same
    rw [askers_updateAsker_self known, Option.some_inj] at isCurrent
    exact Or.inl ⟨rfl, isCurrent.symm⟩
  · rw [askers_updateAsker_of_ne gate same] at isCurrent
    exact Or.inr ⟨same, isCurrent⟩

private theorem countP_modify {Item : Type} (counts : Item → Bool) (change : Item → Item)
    (item : Item) (items : List Item) (index : Nat) (known : items[index]? = some item) :
    (items.modify index change).countP counts + (counts item).toNat =
      items.countP counts + (counts (change item)).toNat := by
  induction items generalizing index with
  | nil => cases known
  | cons first rest inductionHypothesis =>
    cases index with
    | zero =>
      rw [List.getElem?_cons_zero, Option.some_inj] at known
      subst known
      rw [List.modify_zero_cons, List.countP_cons, List.countP_cons]
      cases counts first <;> cases counts (change first) <;> simp
    | succ index =>
      have smaller := inductionHypothesis index known
      rw [List.modify_succ_cons, List.countP_cons, List.countP_cons]
      omega

theorem granted_updateAsker {gate : Gate} {id : AskerId} {asker : Asker}
    (known : gate.askers[id]? = some asker) (change : Asker → Asker) :
    (gate.updateAsker id change).granted + asker.stage.isGranted.toNat =
      gate.granted + (change asker).stage.isGranted.toNat :=
  countP_modify (fun asker : Asker => asker.stage.isGranted) change asker gate.askers id known

/-- Changing an asker changes the sum by the slots that were handed to it. -/
theorem slots_updateAsker {gate : Gate} {id : AskerId} {asker : Asker}
    (known : gate.askers[id]? = some asker) (change : Asker → Asker) :
    (gate.updateAsker id change).slots + asker.stage.isGranted.toNat =
      gate.slots + (change asker).stage.isGranted.toNat := by
  have counted := granted_updateAsker known change
  have free : (gate.updateAsker id change).free = gate.free := rfl
  have held : (gate.updateAsker id change).held = gate.held := rfl
  rw [slots, slots, free, held]
  omega

theorem slots_setStage {gate : Gate} {id : AskerId} {asker : Asker}
    (known : gate.askers[id]? = some asker) (stage : Stage) :
    (gate.setStage id stage).slots + asker.stage.isGranted.toNat =
      gate.slots + stage.isGranted.toNat :=
  slots_updateAsker known ({ · with stage })

end Gate

end OperatorDesk
