/-
This file shows that slots are handed out in the order in which the questions were registered. Those
in line stand in the order of their numbers, behind those who have a slot in hand. So when somebody
who is handed a slot is woken, the askers that are woken before it have nothing to post that was
registered later.
-/

import OperatorDesk.Proofs.Gate.Serving
import Mathlib.Data.List.TakeWhile

namespace OperatorDesk.Gate

variable {gate : Gate} {id : AskerId} {asker : Asker} {move : Move} {number : Nat}

/-! ### Slots go by number -/

/-- Those in line stand in the order of their numbers, behind those who have a slot in hand. -/
structure ByNumber (gate : Gate) : Prop where
  line : gate.line.Pairwise fun left right => ∀ first second,
    gate.stage? left = some (.inLine first) → gate.stage? right = some (.inLine second) →
      first < second
  granted : ∀ id, ∀ other ∈ gate.line, ∀ first second,
    gate.stage? id = some (.granted first) → gate.stage? other = some (.inLine second) →
      first < second

theorem inLine_of_destination (stage : gate.destination asker = .inLine number) :
    asker.stage = .inLine number ∨ asker.stage = .unheard ∧ number = gate.registered + 1 := by
  have seeks : (gate.destination asker).seeking? = some number := by rw [stage]; rfl
  cases before : asker.stage with
  | unheard =>
    have passage : Passage gate 0 asker (.poll 0)
        { gate.prepared asker with stage := gate.destination asker } := .turned
    rcases passage.seeking seeks with sought | ⟨-, isNew⟩
    · rw [before] at sought
      cases sought
    · exact Or.inr ⟨rfl, isNew⟩
  | inLine waited =>
    simp only [Gate.destination, before] at stage
    split at stage
    · cases stage
    · split at stage
      · cases stage
      · exact Or.inl stage
  | granted waited =>
    simp only [Gate.destination, before] at seeks
    split at seeks
    · cases seeks
    · split at seeks
      · cases seeks
      · rw [seeking?_afterGrant] at seeks
        cases seeks
  | listening waited =>
    simp only [Gate.destination, before, seeking?_afterListening] at seeks
    cases seeks
  | ended outcome =>
    simp only [Gate.destination, before] at stage
    cases stage

/-- Whoever stands in line stood there before, or it has just been registered. -/
theorem Passage.inLine {after : Asker} (passage : Passage gate id asker move after)
    (stage : after.stage = .inLine number) :
    asker.stage = .inLine number ∨ asker.stage = .unheard ∧ number = gate.registered + 1 := by
  cases passage with
  | stays => exact Or.inl stage
  | handed =>
    unfold Asker.handed at stage
    split at stage
    · cases stage
    · exact Or.inl stage
  | turned => exact inLine_of_destination stage
  | dropped =>
    unfold Asker.abandoned at stage
    simp only at stage
    split at stage <;> cases stage
  | answered => exact Or.inl stage

theorem Orderly.inLine_step (orderly : gate.Orderly [])
    (stage : (gate.step move).stage? id = some (.inLine number)) :
    gate.stage? id = some (.inLine number) ∨
      gate.stage? id = some .unheard ∧ number = gate.registered + 1 := by
  obtain ⟨after, isAfter, isStage⟩ := Option.map_eq_some_iff.mp stage
  rcases orderly.arrival_or_passage isAfter with ⟨_, _, -, -, rfl⟩ | ⟨before, known, passage⟩
  · cases isStage
  · rw [stage?, known, Option.map_some]
    exact (passage.inLine isStage).imp (congrArg some) (And.imp_left (congrArg some))

theorem Orderly.number_le_of_stage? (orderly : gate.Orderly []) {stage : Stage}
    (isStage : gate.stage? id = some stage) (hasNumber : stage.number? = some number) :
    number ≤ gate.registered := by
  obtain ⟨asker, known, rfl⟩ := Option.map_eq_some_iff.mp isStage
  exact orderly.ownership.numbered id asker number known List.not_mem_nil hasNumber

theorem Orderly.stage?_of_mem_line (orderly : gate.Orderly []) (member : id ∈ gate.line) :
    ∃ number, gate.stage? id = some (.inLine number) := by
  obtain ⟨asker, number, known, stage⟩ := orderly.inLine.waits id member List.not_mem_nil
  exact ⟨number, stage?_of_known known stage⟩

/-- Whoever stands in line keeps its number there. -/
theorem Orderly.inLine_of_mem_line (orderly : gate.Orderly []) (member : id ∈ gate.line)
    (stage : (gate.step move).stage? id = some (.inLine number)) :
    gate.stage? id = some (.inLine number) := by
  obtain ⟨waited, before⟩ := orderly.stage?_of_mem_line member
  refine (orderly.inLine_step stage).resolve_right fun first => ?_
  rw [before] at first
  cases first.1

section Moves

variable {next : List AskerId} {newcomer : Option AskerId}

/-- Old places go by the numbers they had, and the newcomer's number is the greatest. -/
theorem ByNumber.pairwise_step (byNumber : gate.ByNumber) (orderly : gate.Orderly [])
    (unheard : ∀ id ∈ newcomer, gate.stage? id = some .unheard) (move : Move) :
    (gate.line ++ newcomer.toList).Pairwise fun left right => ∀ first second,
      gate.stage? left = some (.inLine first) ∨
          (gate.step move).stage? left = some (.inLine first) →
        (gate.step move).stage? right = some (.inLine second) → first < second := by
  refine List.pairwise_append.mpr ⟨?_, ?_, ?_⟩
  · refine byNumber.line.imp_of_mem fun {left right} isLeft isRight less first second => ?_
    intro before after
    exact less first second (before.elim id (orderly.inLine_of_mem_line isLeft))
      (orderly.inLine_of_mem_line isRight after)
  · cases newcomer with
    | none => exact List.Pairwise.nil
    | some id => exact List.pairwise_singleton _ _
  · intro left isLeft right isRight first second before after
    have stood := before.elim id (orderly.inLine_of_mem_line isLeft)
    rcases orderly.inLine_step after with waited | ⟨-, rfl⟩
    · rw [unheard right (Option.mem_toList.mp isRight)] at waited
      cases waited
    · exact Nat.lt_succ_of_le (orderly.number_le_of_stage? stood rfl)

/-- Whoever had a slot in hand was registered before those who stand in line after the move. -/
theorem ByNumber.lt_of_granted (byNumber : gate.ByNumber) (orderly : gate.Orderly [])
    (progress : gate.Progress (gate.step move) next newcomer) {other : AskerId} {waiting : Nat}
    (granted : gate.stage? id = some (.granted number))
    (member : other ∈ (gate.step move).line)
    (waits : (gate.step move).stage? other = some (.inLine waiting)) : number < waiting := by
  rcases orderly.inLine_step waits with waited | ⟨-, rfl⟩
  · have isPlace := progress.line.subset (List.mem_append_right next member)
    have stood : other ∈ gate.line := by
      refine (List.mem_append.mp isPlace).resolve_right fun isNew => ?_
      rw [progress.newcomer other (Option.mem_toList.mp isNew)] at waited
      cases waited
    exact byNumber.granted id other stood number waiting granted waited
  · exact Nat.lt_succ_of_le (orderly.number_le_of_stage? granted rfl)

/-- Every move hands out slots by number. -/
theorem ByNumber.step (byNumber : gate.ByNumber) (orderly : gate.Orderly []) (move : Move) :
    (gate.step move).ByNumber := by
  obtain ⟨next, newcomer, progress⟩ := orderly.progress_step move
  have ordered := (byNumber.pairwise_step orderly progress.newcomer move).sublist progress.line
  obtain ⟨-, behind, across⟩ := List.pairwise_append.mp ordered
  refine ⟨behind.imp fun less first second before => less first second (Or.inr before), ?_⟩
  intro id other member first second granted waits
  rcases progress.granted id first granted with before | ⟨isNext, before⟩
  · exact byNumber.lt_of_granted orderly progress before member waits
  · exact across id isNext other member first second (Or.inl before) waits

end Moves

theorem byNumber_run (settings : GateSettings) (moves : List Move) :
    ((new settings).run moves).ByNumber := by
  refine run_invariant (fun _ gate => gate.ByNumber) (new settings)
    ⟨List.Pairwise.nil, fun _ _ member => absurd member List.not_mem_nil⟩ ?_ moves
  exact fun moves move byNumber => byNumber.step (orderly_run settings moves) move

/-- Whoever has asked before is where it was when another asks. -/
theorem stage?_ask_cases {context : Context} {question : Question} {stage : Stage}
    (isStage : (gate.ask context question).stage? id = some stage) :
    gate.stage? id = some stage ∨ stage = .unheard := by
  obtain ⟨asker, known, rfl⟩ := Option.map_eq_some_iff.mp isStage
  rcases askers_ask_cases known with before | ⟨unheard, -⟩
  · exact Or.inl (stage?_of_known before rfl)
  · exact Or.inr unheard

/-! ### Who is woken first -/

/-- The asker has had its first turn, and looks for a slot under a smaller number if at all. -/
def Precedes (gate : Gate) (id : AskerId) (number : Nat) : Prop :=
  ∃ asker, gate.askers[id]? = some asker ∧ asker.stage ≠ .unheard ∧
    ∀ own, asker.stage.seeking? = some own → own < number

/-- Whoever has had its first turn looks for no slot that it did not look for before. -/
theorem Passage.sought {after : Asker} (passage : Passage gate id asker move after)
    (heard : asker.stage ≠ .unheard) (seeks : after.stage.seeking? = some number) :
    asker.stage.seeking? = some number := by
  rcases passage.seeking seeks with sought | ⟨rfl, -⟩
  · exact sought
  cases passage with
  | stays => exact seeks
  | handed => exact asker.seeking?_handed.symm.trans seeks
  | turned =>
    -- A turn leaves an asker in line if anywhere, and only a first turn takes it there.
    have halt := gate.halt_destination asker
    cases stage : gate.destination asker with
    | inLine own =>
      rw [← (inLine_of_destination stage).resolve_right fun first => heard first.1] at stage
      rw [← stage]
      exact seeks
    | unheard => exact absurd stage halt.ne_unheard
    | granted own =>
      rw [stage] at halt
      cases halt.isGranted_eq_false
    | _ =>
      simp only [stage] at seeks
      cases seeks

theorem Precedes.step (precedes : gate.Precedes id number) (orderly : gate.Orderly [])
    (move : Move) : (gate.step move).Precedes id number := by
  obtain ⟨asker, known, heard, before⟩ := precedes
  obtain ⟨after, isAfter, passage⟩ := orderly.passage known move
  refine ⟨after, isAfter, fun unheard => heard ?_, fun own seeks =>
    before own (passage.sought heard seeks)⟩
  rw [← passage.eq_of_unheard unheard]
  exact unheard

theorem Precedes.run (precedes : gate.Precedes id number) (orderly : gate.Orderly [])
    (moves : List Move) : (gate.run moves).Precedes id number :=
  run_invariant (fun _ later => later.Precedes id number) gate precedes
    (fun before move kept => kept.step (orderly.run before).1 move) moves

/-- Those who stand ahead of an asker in line look for slots under smaller numbers. -/
theorem ByNumber.pairwise_precedes (byNumber : gate.ByNumber) (orderly : gate.Orderly [])
    {newcomer : Option AskerId} (unheard : ∀ id ∈ newcomer, gate.stage? id = some .unheard) :
    (gate.line ++ newcomer.toList).Pairwise fun ahead id => ∀ number,
      gate.stage? id = some (.inLine number) → gate.Precedes ahead number := by
  refine List.pairwise_append.mpr ⟨?_, ?_, ?_⟩
  · refine byNumber.line.imp_of_mem fun {ahead id} isAhead _ less number waits => ?_
    obtain ⟨asker, first, known, stage⟩ := orderly.inLine.waits ahead isAhead List.not_mem_nil
    refine ⟨asker, known, by rw [stage]; exact Stage.noConfusion, fun own seeks => ?_⟩
    rw [stage] at seeks
    obtain rfl := Option.some_inj.mp seeks
    exact less first number (stage?_of_known known stage) waits
  · cases newcomer with
    | none => exact List.Pairwise.nil
    | some id => exact List.pairwise_singleton _ _
  · intro _ _ id isNew number waits
    rw [unheard id (Option.mem_toList.mp isNew)] at waits
    cases waits

theorem mem_takeWhile_asker? {woken : List Wake} {other : AskerId}
    (isAhead : .asker other ∈ woken.takeWhile (· ≠ .asker id)) :
    other ∈ (woken.filterMap Wake.asker?).takeWhile (· ≠ id) := by
  have same : (fun wake : Wake => wake.asker?.all (· ≠ id)) = (· ≠ Wake.asker id) := by
    funext wake
    cases wake <;> simp [Wake.asker?]
  rw [List.takeWhile_filterMap, same]
  exact List.mem_filterMap.mpr ⟨.asker other, isAhead, rfl⟩

/-- Whoever is handed a slot is woken, and the askers that are woken before it have nothing to post
that was registered later. -/
theorem Orderly.granted_or_handed (orderly : gate.Orderly []) (byNumber : gate.ByNumber)
    (untold : gate.woken = []) (move : Move)
    (granted : (gate.step move).stage? id = some (.granted number)) :
    gate.stage? id = some (.granted number) ∨
      gate.stage? id = some (.inLine number) ∧
        ∀ other, .asker other ∈ (gate.step move).woken.takeWhile (· ≠ .asker id) →
          (gate.step move).Precedes other number := by
  obtain ⟨next, newcomer, progress⟩ := orderly.progress_step move
  rcases progress.granted id number granted with before | ⟨isNext, waits⟩
  · exact Or.inl before
  obtain ⟨told, woken, isWoken, isTold, listening⟩ := progress.woken (List.ne_nil_of_mem isNext)
  rw [untold, List.nil_append] at isWoken
  refine Or.inr ⟨waits, fun other isAhead => ?_⟩
  rw [isWoken] at isAhead
  have isCalled := mem_takeWhile_asker? isAhead
  rw [isTold, List.takeWhile_append] at isCalled
  have called : other ∈ told ∨ other ∈ next.takeWhile (· ≠ id) := by
    split at isCalled
    · exact List.mem_append.mp isCalled
    · exact Or.inl (List.takeWhile_subset _ isCalled)
  rcases called with isTold | isServed
  · obtain ⟨own, listens⟩ := listening other isTold
    obtain ⟨asker, known, stage⟩ := Option.map_eq_some_iff.mp listens
    refine ⟨asker, known, by rw [stage]; exact Stage.noConfusion, fun own seeks => ?_⟩
    rw [stage] at seeks
    cases seeks
  · have ordered :=
      (byNumber.pairwise_precedes orderly progress.newcomer).sublist
        ((List.sublist_append_left next _).trans progress.line)
    have isLater : id ∈ next.dropWhile (· ≠ id) := by
      rw [← List.takeWhile_append_dropWhile (p := (· ≠ id)) (l := next)] at isNext
      refine (List.mem_append.mp isNext).resolve_left fun isEarly => ?_
      simpa using List.mem_takeWhile_imp isEarly
    rw [← List.takeWhile_append_dropWhile (p := (· ≠ id)) (l := next)] at ordered
    have precedes := (List.pairwise_append.mp ordered).2.2 other isServed id isLater number waits
    exact precedes.step orderly move

end OperatorDesk.Gate
