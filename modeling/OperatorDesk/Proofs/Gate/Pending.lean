/-
This file describes the pending exchanges while no two of them share a question id. An exchange
is then found by its id exactly when it is pending, and taking it out or marking its slot leaves
all others as they are. Up to order, the pending exchanges are the one that was found and the
others, from which the number of slots that they hold can be read off.
-/

import OperatorDesk.Gate.Run
import Mathlib.Data.List.Pairwise

namespace OperatorDesk.Gate

/-- No two pending exchanges have a question id in common. -/
def DistinctIds (gate : Gate) : Prop :=
  gate.pending.Pairwise fun left right => left.question.id ≠ right.question.id

/-- The slots that pending exchanges hold. -/
def held (gate : Gate) : Nat :=
  gate.pending.countP Exchange.holdsSlot

/-! ### Finding an exchange -/

theorem mem_of_find? {gate : Gate} {id : String} {exchange : Exchange}
    (found : gate.find? id = some exchange) : exchange ∈ gate.pending :=
  List.mem_of_find?_eq_some found

theorem id_of_find? {gate : Gate} {id : String} {exchange : Exchange}
    (found : gate.find? id = some exchange) : exchange.question.id = id := by
  simpa using List.find?_some found

theorem find?_eq_none_iff {gate : Gate} {id : String} :
    gate.find? id = none ↔ ∀ exchange ∈ gate.pending, exchange.question.id ≠ id := by
  simp [find?]

theorem isPending_eq_false_iff {gate : Gate} {id : String} :
    gate.isPending id = false ↔ ∀ exchange ∈ gate.pending, exchange.question.id ≠ id := by
  simp [isPending]

/-- Two pending exchanges with one id are the same exchange. -/
theorem DistinctIds.eq_of_id {gate : Gate} (distinct : gate.DistinctIds)
    {left right : Exchange} (memberLeft : left ∈ gate.pending)
    (memberRight : right ∈ gate.pending) (same : left.question.id = right.question.id) :
    left = right := by
  have symmetric : Std.Symm fun left right : Exchange => left.question.id ≠ right.question.id :=
    ⟨fun _ _ => Ne.symm⟩
  by_contra different
  exact distinct.forall memberLeft memberRight different same

theorem DistinctIds.find?_of_mem {gate : Gate} (distinct : gate.DistinctIds)
    {exchange : Exchange} (member : exchange ∈ gate.pending) :
    gate.find? exchange.question.id = some exchange := by
  cases found : gate.find? exchange.question.id with
  | none => exact absurd rfl (find?_eq_none_iff.mp found exchange member)
  | some other =>
    rw [distinct.eq_of_id (mem_of_find? found) member (id_of_find? found)]

/-! ### Taking an exchange out, and marking its slot -/

theorem mem_removePending {gate : Gate} {id : String} {exchange : Exchange} :
    exchange ∈ (gate.removePending id).pending ↔
      exchange ∈ gate.pending ∧ exchange.question.id ≠ id := by
  simp [removePending]

/-- Marking changes the exchange that was found and no other. -/
theorem DistinctIds.mem_markSlot {gate : Gate} (distinct : gate.DistinctIds) {id : String}
    {found : Exchange} (isFound : gate.find? id = some found) (holdsSlot : Bool)
    (exchange : Exchange) :
    exchange ∈ (gate.markSlot id holdsSlot).pending ↔
      exchange = { found with holdsSlot } ∨
        exchange ∈ gate.pending ∧ exchange.question.id ≠ id := by
  simp only [markSlot, List.mem_map]
  constructor
  · rintro ⟨original, member, rfl⟩
    by_cases same : original.question.id = id
    · rw [if_pos same]
      have equal : original = found := distinct.eq_of_id member (mem_of_find? isFound)
        (same.trans (id_of_find? isFound).symm)
      exact Or.inl (by rw [equal])
    · rw [if_neg same]
      exact Or.inr ⟨member, same⟩
  · rintro (rfl | ⟨member, different⟩)
    · exact ⟨found, mem_of_find? isFound, if_pos (id_of_find? isFound)⟩
    · exact ⟨exchange, member, if_neg different⟩

/-! ### Counting slots -/

private theorem perm_of_find? {pending : List Exchange} {id : String} {found : Exchange}
    (distinct : pending.Pairwise fun left right => left.question.id ≠ right.question.id)
    (isFound : pending.find? (·.question.id == id) = some found) :
    pending.Perm (found :: pending.filter (·.question.id != id)) := by
  induction pending with
  | nil => cases isFound
  | cons first rest inductionHypothesis =>
    rw [List.pairwise_cons] at distinct
    by_cases same : first.question.id = id
    · have isFirst : first = found := by simpa [same] using isFound
      have others : rest.filter (·.question.id != id) = rest := by
        refine List.filter_eq_self.mpr fun other member => ?_
        simpa [← same] using (distinct.1 other member).symm
      rw [List.filter_cons_of_neg (by simp [same]), others, isFirst]
    · have later : rest.find? (·.question.id == id) = some found := by
        simpa [same] using isFound
      rw [List.filter_cons_of_pos (by simp [same])]
      exact ((inductionHypothesis distinct.2 later).cons first).trans (List.Perm.swap _ _ _)

/-- The slot of the exchange that was found counts beside those of the others. -/
theorem DistinctIds.held_eq {gate : Gate} (distinct : gate.DistinctIds) {id : String}
    {found : Exchange} (isFound : gate.find? id = some found) :
    gate.held = (gate.removePending id).held + found.holdsSlot.toNat := by
  have counted := (perm_of_find? distinct isFound).countP_eq Exchange.holdsSlot
  rw [List.countP_cons] at counted
  cases holds : found.holdsSlot <;> simpa [held, removePending, holds] using counted

theorem removePending_markSlot (gate : Gate) (id : String) (holdsSlot : Bool) :
    (gate.markSlot id holdsSlot).removePending id = gate.removePending id := by
  have pending : ∀ exchanges : List Exchange,
      (exchanges.map fun exchange =>
        if exchange.question.id = id then { exchange with holdsSlot } else exchange).filter
          (·.question.id != id) = exchanges.filter (·.question.id != id) := by
    intro exchanges
    induction exchanges with
    | nil => rfl
    | cons first rest inductionHypothesis =>
      by_cases same : first.question.id = id <;> simp [same, inductionHypothesis]
  simp only [removePending, markSlot, pending]

theorem find?_markSlot {gate : Gate} {id : String} {found : Exchange}
    (isFound : gate.find? id = some found) (holdsSlot : Bool) :
    (gate.markSlot id holdsSlot).find? id = some { found with holdsSlot } := by
  have sameId : ((fun exchange : Exchange => exchange.question.id == id) ∘ fun exchange =>
      if exchange.question.id = id then { exchange with holdsSlot } else exchange) =
      fun exchange => exchange.question.id == id := by
    funext exchange
    simp only [Function.comp]
    split <;> rfl
  simp only [find?, markSlot, List.find?_map, sameId]
  rw [show gate.pending.find? (·.question.id == id) = some found from isFound, Option.map_some,
    if_pos (id_of_find? isFound)]

theorem DistinctIds.markSlot {gate : Gate} (distinct : gate.DistinctIds) (id : String)
    (holdsSlot : Bool) : (gate.markSlot id holdsSlot).DistinctIds := by
  refine List.pairwise_map.mpr (distinct.imp fun {left right} different => ?_)
  split <;> split <;> exact different

/-- A marked exchange counts as it is marked. -/
theorem DistinctIds.held_markSlot {gate : Gate} (distinct : gate.DistinctIds) {id : String}
    {found : Exchange} (isFound : gate.find? id = some found) (holdsSlot : Bool) :
    (gate.markSlot id holdsSlot).held = (gate.removePending id).held + holdsSlot.toNat := by
  rw [(distinct.markSlot id holdsSlot).held_eq (find?_markSlot isFound holdsSlot),
    removePending_markSlot]

end OperatorDesk.Gate
