/-
This file says what the operations on a gate leave alone. While some askers are busy, the others
wait on: at most a slot is handed to them. Nobody's question or reply changes, no exchange is
added, and an exchange that stays differs at most in its slot. Operations that leave so much alone
do so one after the other as well.
-/

import OperatorDesk.Proofs.Gate.Operations

namespace OperatorDesk

/-- The exchange without regard to its slot. -/
def Exchange.unslotted (exchange : Exchange) : Exchange :=
  { exchange with holdsSlot := false }

/-- What an asker asks and has been told. -/
def Asker.said (asker : Asker) : Question × Option Answer :=
  (asker.question, asker.reply)

theorem Asker.said_handed (asker : Asker) : asker.handed.said = asker.said := by
  unfold Asker.handed Asker.said
  split <;> rfl

namespace Gate

/-- What the turns of askers and readers leave alone. -/
structure Surroundings where
  settings : GateSettings
  seat : Seat
  history : List Record
  closed : Bool
  signalled : Bool
  used : List Token
  now : Nat
  served : Nat
  wallClock : Moment

def surroundings (gate : Gate) : Surroundings :=
  { settings := gate.settings, seat := gate.seat, history := gate.history, closed := gate.closed,
    signalled := gate.signalled, used := gate.used, now := gate.now, served := gate.served,
    wallClock := gate.wallClock }

/-! ### Those who wait on -/

/-- The asker waits on, and at most a slot is handed to it. -/
def WaitsOn (gate later : Gate) (id : AskerId) : Prop :=
  later.askers[id]? = gate.askers[id]? ∨ later.askers[id]? = (gate.askers[id]?).map Asker.handed

theorem WaitsOn.trans {first second third : Gate} {id : AskerId} (left : first.WaitsOn second id)
    (right : second.WaitsOn third id) : first.WaitsOn third id := by
  have twice : Asker.handed ∘ Asker.handed = Asker.handed := funext Asker.handed_handed
  rcases left with left | left <;> rcases right with right | right
  · exact Or.inl (right.trans left)
  · exact Or.inr (by rw [right, left])
  · exact Or.inr (right.trans left)
  · exact Or.inr (by rw [right, left, Option.map_map, twice])

theorem waitsOn_releaseSlot (gate : Gate) (id : AskerId) : gate.WaitsOn gate.releaseSlot id := by
  cases isLine : gate.line with
  | nil => exact Or.inl (by rw [releaseSlot_of_nil isLine])
  | cons next rest =>
    rw [releaseSlot_of_cons isLine]
    by_cases same : next = id
    · exact Or.inr (by rw [same]; exact List.getElem?_modify_eq Asker.handed id gate.askers)
    · exact Or.inl (List.getElem?_modify_ne Asker.handed gate.askers same)

/-! ### Only the busy are touched -/

/-- Between the two gates only busy askers did something, and nobody registered. -/
structure Touches (gate later : Gate) (busy : List AskerId) : Prop where
  surroundings : later.surroundings = gate.surroundings
  registered : later.registered = gate.registered
  pending : (later.pending.map Exchange.unslotted).Sublist (gate.pending.map Exchange.unslotted)
  said : ∀ id : AskerId, (later.askers[id]?).map Asker.said = (gate.askers[id]?).map Asker.said
  others : ∀ id ∉ busy, gate.WaitsOn later id

theorem Touches.refl (gate : Gate) (busy : List AskerId) : gate.Touches gate busy :=
  ⟨rfl, rfl, List.Sublist.refl _, fun _ => rfl, fun _ _ => Or.inl rfl⟩

theorem Touches.trans {first second third : Gate} {busy : List AskerId}
    (left : first.Touches second busy) (right : second.Touches third busy) :
    first.Touches third busy :=
  ⟨right.surroundings.trans left.surroundings, right.registered.trans left.registered,
    right.pending.trans left.pending, fun id => (right.said id).trans (left.said id),
    fun id idle => (left.others id idle).trans (right.others id idle)⟩

/-- The operations that change neither exchanges nor askers. -/
theorem touches_of_same {gate later : Gate} (busy : List AskerId)
    (surroundings : later.surroundings = gate.surroundings)
    (registered : later.registered = gate.registered) (pending : later.pending = gate.pending)
    (askers : later.askers = gate.askers) : gate.Touches later busy :=
  ⟨surroundings, registered, by simp only [pending, List.Sublist.refl], fun _ => by rw [askers],
    fun _ _ => Or.inl (by rw [askers])⟩

theorem touches_releaseSlot (gate : Gate) (busy : List AskerId) :
    gate.Touches gate.releaseSlot busy := by
  have said : ∀ id : AskerId, (gate.releaseSlot.askers[id]?).map Asker.said =
      (gate.askers[id]?).map Asker.said := by
    intro id
    rcases waitsOn_releaseSlot gate id with same | handed
    · rw [same]
    · rw [handed, Option.map_map]
      exact congrArg (fun said => (gate.askers[id]?).map said) (funext Asker.said_handed)
  have others := waitsOn_releaseSlot gate
  obtain ⟨_, _, _, _, same⟩ := releaseSlot_frame gate
  rw [same] at said others ⊢
  exact ⟨rfl, rfl, List.Sublist.refl _, said, fun id _ => others id⟩

theorem touches_releaseOf (gate : Gate) (exchange : Exchange) (busy : List AskerId) :
    gate.Touches (gate.releaseOf exchange) busy := by
  unfold releaseOf
  split
  · exact touches_releaseSlot gate busy
  · exact Touches.refl gate busy

theorem touches_removePending (gate : Gate) (id : String) (busy : List AskerId) :
    gate.Touches (gate.removePending id) busy :=
  ⟨rfl, rfl, List.filter_sublist.map _, fun _ => rfl, fun _ _ => Or.inl rfl⟩

theorem touches_markSlot (gate : Gate) (id : String) (holdsSlot : Bool) (busy : List AskerId) :
    gate.Touches (gate.markSlot id holdsSlot) busy := by
  have pending : (gate.markSlot id holdsSlot).pending.map Exchange.unslotted =
      gate.pending.map Exchange.unslotted := by
    rw [markSlot, List.map_map]
    refine List.map_congr_left fun exchange _ => ?_
    simp only [Function.comp, Exchange.unslotted]
    split <;> rfl
  exact ⟨rfl, rfl, by simp only [pending, List.Sublist.refl], fun _ => rfl,
    fun _ _ => Or.inl rfl⟩

theorem touches_post (gate : Gate) (number : Nat) (question : Question) (busy : List AskerId) :
    gate.Touches (gate.post number question) busy := by
  obtain ⟨woken, same⟩ := post_frame gate number question
  rw [same]
  exact touches_of_same busy rfl rfl rfl rfl

theorem touches_setStage (gate : Gate) {id : AskerId} {busy : List AskerId} (isBusy : id ∈ busy)
    (stage : Stage) : gate.Touches (gate.setStage id stage) busy := by
  refine ⟨rfl, rfl, List.Sublist.refl _, fun other => ?_, fun other idle => Or.inl ?_⟩
  · rw [setStage, updateAsker, List.getElem?_modify]
    cases gate.askers[other]? with
    | none => rfl
    | some asker =>
      simp only [Option.map_eq_map, Option.map_some, Asker.said]
      split <;> rfl
  · exact askers_updateAsker_of_ne gate (fun same => idle (by rw [same]; exact isBusy)) _

theorem touches_retract (gate : Gate) (id : String) (number : Nat) (busy : List AskerId) :
    gate.Touches (gate.retract id number).1 busy := by
  unfold retract
  split
  · split
    · exact (touches_removePending gate id busy).trans (touches_releaseOf _ _ busy)
    · exact Touches.refl gate busy
  · exact Touches.refl gate busy

/-! ### Turns touch the asker whose turn it is -/

section Turns

variable (gate : Gate) {id : AskerId} {busy : List AskerId} (isBusy : id ∈ busy) (asker : Asker)
  (number : Nat)

include isBusy

theorem touches_leave (outcome : Outcome) :
    gate.Touches (gate.leave id asker number outcome) busy :=
  (touches_retract gate asker.question.id number busy).trans
    (touches_setStage _ isBusy (.ended outcome))

theorem touches_finishEarly (ending : Ending) :
    gate.Touches (gate.finishEarly id asker number ending) busy := by
  have retracted := touches_retract gate asker.question.id number busy
  unfold finishEarly
  split
  · next same =>
    rw [same] at retracted
    exact retracted.trans (touches_setStage _ isBusy _)
  · next same =>
    rw [same] at retracted
    split <;> exact retracted.trans (touches_setStage _ isBusy _)

theorem touches_listen : gate.Touches (gate.listen id asker number) busy := by
  unfold listen
  split
  · exact touches_setStage gate isBusy _
  · split
    · split
      · exact touches_finishEarly gate isBusy asker number _
      · exact touches_setStage gate isBusy _
    · exact touches_setStage gate isBusy _

theorem touches_useSlot : gate.Touches (gate.useSlot id asker number) busy := by
  unfold useSlot
  split
  · have marked := touches_markSlot gate asker.question.id true busy
    simp only
    split
    · exact marked.trans (touches_leave _ isBusy asker number _)
    · exact (marked.trans (touches_post _ number asker.question busy)).trans
        (touches_listen _ isBusy asker number)
  · exact (touches_releaseSlot gate busy).trans (touches_listen _ isBusy asker number)

theorem touches_seekSlot : gate.Touches (gate.seekSlot id asker number) busy := by
  unfold seekSlot
  split
  · have taken : gate.Touches { gate with free := gate.free - 1 } busy :=
      touches_of_same busy rfl rfl rfl rfl
    exact taken.trans (touches_useSlot _ isBusy asker number)
  · have longer : gate.Touches { gate with line := gate.line ++ [id] } busy :=
      touches_of_same busy rfl rfl rfl rfl
    exact longer.trans (touches_setStage _ isBusy _)

end Turns

end Gate

end OperatorDesk
