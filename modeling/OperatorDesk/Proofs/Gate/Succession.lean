/-
This file shows that the exchanges which use an id one after the other keep apart. An ask whose id
is taken when it first runs is refused, and leaves nothing at the gate that could be taken back
later. Once an exchange has ended its number never pends again, and whoever acts for it finds that
its number is gone before touching what is filed under its id: its asker ends, leaves the line or
gives a slot back, its letter is passed over, and what is pending stays as it is.
-/

import OperatorDesk.Proofs.Gate.Reuse

namespace OperatorDesk.Gate

variable {gate : Gate} {id : AskerId} {asker : Asker} {number : Nat}

/-! ### A taken id -/

/-- An ask whose id is taken when it first runs is refused, and nothing else happens. -/
theorem Orderly.poll_of_taken (orderly : gate.Orderly []) (known : gate.askers[id]? = some asker)
    (unheard : asker.stage = .unheard) (taken : gate.isPending asker.question.id = true) :
    gate.poll id = gate.conclude id (.failed (.duplicate asker.question.id)) := by
  have stillOpen : gate.closed = false := by
    refine Bool.eq_false_iff.mpr fun isClosed => ?_
    rw [isPending, (orderly.closing.empty isClosed).1] at taken
    cases taken
  simp only [Gate.poll, known, unheard, begin_eq, stillOpen, taken, Bool.false_eq_true, if_false,
    if_true]

theorem drop_of_ended {outcome : Outcome} (known : gate.askers[id]? = some asker)
    (ended : asker.stage = .ended outcome) : gate.drop id = gate := by
  simp only [Gate.drop, known, ended]

/-! ### After the end of an exchange -/

/-- What can still happen for an ask whose exchange has ended: its context ends, or the ask itself,
which may stand in line or have a slot in hand until then. -/
inductive Aftermath (gate : Gate) (id : AskerId) : Gate → Prop where
  | nothing : Aftermath gate id gate
  | contextEnds (used : List Token) (now served : Nat) (woken : List Wake) :
    Aftermath gate id { gate with used, now, served, woken }
  | ends (outcome : Outcome) : Aftermath gate id (gate.conclude id outcome)
  | leavesLine (outcome : Outcome) : Aftermath gate id ((gate.leaveLine id).conclude id outcome)
  | returnsSlot (outcome : Outcome) : Aftermath gate id (gate.releaseSlot.conclude id outcome)

/-- The moves that are made for an asker: its turns, the dropping of its ask, and whatever can end
its context. -/
inductive Move.IsFor (id : AskerId) : Move → Prop where
  | poll : IsFor id (.poll id)
  | drop : IsFor id (.drop id)
  | cancel (token : Token) : IsFor id (.cancel token)
  | dropHandle (token : Token) : IsFor id (.dropHandle token)
  | elapse (duration : Nat) : IsFor id (.elapse duration)
  | serveTimers : IsFor id .serveTimers

/-- Nothing that is pending, posted or written down has changed, and apart from this asker nobody
has noticed anything but a slot that was handed over. -/
structure Spares (gate later : Gate) (id : AskerId) : Prop where
  pending : later.pending = gate.pending
  mailbox : later.mailbox = gate.mailbox
  history : later.history = gate.history
  registered : later.registered = gate.registered
  others : ∀ other : AskerId, other ≠ id → gate.WaitsOn later other

theorem Spares.refl (gate : Gate) (id : AskerId) : gate.Spares gate id :=
  ⟨rfl, rfl, rfl, rfl, fun _ _ => Or.inl rfl⟩

theorem Spares.trans {first second third : Gate} (left : first.Spares second id)
    (right : second.Spares third id) : first.Spares third id :=
  ⟨right.pending.trans left.pending, right.mailbox.trans left.mailbox,
    right.history.trans left.history, right.registered.trans left.registered,
    fun other different => (left.others other different).trans (right.others other different)⟩

theorem spares_conclude (gate : Gate) (id : AskerId) (outcome : Outcome) :
    gate.Spares (gate.conclude id outcome) id :=
  ⟨rfl, rfl, rfl, rfl, fun _ different => Or.inl (askers_updateAsker_of_ne gate different _)⟩

theorem spares_releaseSlot (gate : Gate) (id : AskerId) : gate.Spares gate.releaseSlot id := by
  have others := waitsOn_releaseSlot gate
  obtain ⟨_, _, _, _, same⟩ := releaseSlot_frame gate
  rw [same] at others ⊢
  exact ⟨rfl, rfl, rfl, rfl, fun other _ => others other⟩

theorem Aftermath.spares {later : Gate} (aftermath : Aftermath gate id later) :
    gate.Spares later id := by
  cases aftermath with
  | nothing => exact Spares.refl gate id
  | contextEnds used now served woken => exact ⟨rfl, rfl, rfl, rfl, fun _ _ => Or.inl rfl⟩
  | ends outcome => exact spares_conclude gate id outcome
  | leavesLine outcome =>
    have left : gate.Spares (gate.leaveLine id) id := ⟨rfl, rfl, rfl, rfl, fun _ _ => Or.inl rfl⟩
    exact left.trans (spares_conclude _ id outcome)
  | returnsSlot outcome =>
    exact (spares_releaseSlot gate id).trans (spares_conclude _ id outcome)

/-! ### Turns without an exchange -/

section Gone

variable (gone : ∀ exchange ∈ gate.pending, exchange.asker ≠ id)

include gone

theorem Turn.not_isCurrent (turn : gate.Turn id asker number) :
    gate.isCurrent asker.question.id number = false := by
  refine Bool.eq_false_iff.mpr fun current => ?_
  obtain ⟨exchange, member, isOwn⟩ := turn.own_of_isCurrent current
  exact gone exchange member isOwn

/-- An ask without an exchange takes nothing along when it ends. -/
theorem Turn.leave_of_gone (turn : gate.Turn id asker number) (outcome : Outcome) :
    gate.leave id asker number outcome = gate.conclude id outcome := by
  rw [Gate.leave, retract_of_not_isCurrent (turn.not_isCurrent gone)]

theorem Turn.listen_of_gone (turn : gate.Turn id asker number) :
    ∃ outcome, gate.listen id asker number = gate.conclude id outcome := by
  rw [turn.listen_eq]
  cases hears : gate.heard asker number with
  | some outcome => exact ⟨outcome, turn.leave_of_gone gone outcome⟩
  | none =>
    simp only [heard, turn.not_isCurrent gone, Bool.false_eq_true, if_false] at hears
    cases reply : asker.reply <;> simp [reply] at hears

/-- Giving the slot back does not bring an exchange back. -/
theorem gone_releaseSlot : ∀ exchange ∈ gate.releaseSlot.pending, exchange.asker ≠ id := by
  rw [(spares_releaseSlot gate id).pending]
  exact gone

/-- A turn of an asker whose exchange has ended. -/
theorem Orderly.aftermath_poll (orderly : gate.Orderly [])
    (known : gate.askers[id]? = some asker) (heard : asker.stage ≠ .unheard) :
    Aftermath gate id (gate.poll id) := by
  cases stage : asker.stage with
  | unheard => exact absurd stage heard
  | inLine number =>
    have outside := orderly.turn_leaveLine known stage
    have still : ∀ exchange ∈ (gate.leaveLine id).pending, exchange.asker ≠ id := gone
    simp only [Gate.poll, known, stage, finishEarly_eq_leave, outside.leave_of_gone still]
    split
    · exact .leavesLine _
    · split
      · exact .leavesLine _
      · exact .nothing
  | granted number =>
    have turn := orderly.turn_granted known stage
    have released := turn.releaseSlot.leave_of_gone (gone_releaseSlot gone)
    simp only [Gate.poll, known, stage, finishEarly_eq_leave, released]
    split
    · exact .returnsSlot _
    split
    · exact .returnsSlot _
    · obtain ⟨outcome, listened⟩ := turn.releaseSlot.listen_of_gone (gone_releaseSlot gone)
      simp only [Gate.useSlot, turn.not_isCurrent gone, Bool.false_eq_true, if_false, listened]
      exact .returnsSlot outcome
  | listening number =>
    obtain ⟨outcome, listened⟩ := (orderly.turn_listening known stage).listen_of_gone gone
    simp only [Gate.poll, known, stage, listened]
    exact .ends outcome
  | ended outcome =>
    simp only [Gate.poll, known, stage]
    exact .nothing

/-- Dropping an ask whose exchange has ended. -/
theorem Orderly.aftermath_drop (orderly : gate.Orderly [])
    (known : gate.askers[id]? = some asker) : Aftermath gate id (gate.drop id) := by
  cases stage : asker.stage with
  | unheard =>
    simp only [Gate.drop, known, stage]
    exact .ends .dropped
  | inLine number =>
    have outside := orderly.turn_leaveLine known stage
    have still : ∀ exchange ∈ (gate.leaveLine id).pending, exchange.asker ≠ id := gone
    simp only [Gate.drop, known, stage, outside.leave_of_gone still]
    exact .leavesLine .dropped
  | granted number =>
    have turn := orderly.turn_granted known stage
    simp only [Gate.drop, known, stage,
      turn.releaseSlot.leave_of_gone (gone_releaseSlot gone)]
    exact .returnsSlot .dropped
  | listening number =>
    simp only [Gate.drop, known, stage, (orderly.turn_listening known stage).leave_of_gone gone]
    exact .ends .dropped
  | ended outcome =>
    rw [drop_of_ended known stage]
    exact .nothing

/-- Whatever is done for an ask whose exchange has ended spares all others. -/
theorem Orderly.aftermath_step (orderly : gate.Orderly [])
    (known : gate.askers[id]? = some asker) (heard : asker.stage ≠ .unheard) {move : Move}
    (isFor : move.IsFor id) : Aftermath gate id (gate.step move) := by
  cases isFor with
  | poll => exact orderly.aftermath_poll gone known heard
  | drop => exact orderly.aftermath_drop gone known
  | _ => exact .contextEnds _ _ _ _

end Gone

/-! ### Numbers that are gone -/

/-- Nothing is pending under the number. -/
def IsGone (gate : Gate) (number : Nat) : Prop :=
  ∀ exchange ∈ gate.pending, exchange.number ≠ number

theorem IsGone.not_isCurrent (gone : gate.IsGone number) (questionId : String) :
    gate.isCurrent questionId number = false := by
  refine Bool.eq_false_iff.mpr fun current => ?_
  obtain ⟨exchange, found, same⟩ := (Option.any_eq_true _ _).mp current
  exact gone exchange (mem_of_find? found) (beq_iff_eq.mp same)

/-- Reading a letter whose number is gone does nothing, whatever else is in the mailbox. -/
theorem IsGone.accept (gone : gate.IsGone number) {letter : Letter}
    (isNumber : letter.number = number) (mailbox : List Letter) :
    { gate with mailbox }.accept letter = ({ gate with mailbox }, none) :=
  accept_of_not_isCurrent (isNumber ▸ gone.not_isCurrent letter.question.id)

section Registered

variable {settings : GateSettings} {moves : List Move} {registration : Registration}
  (registers : registration ∈ (new settings).registrations moves)

include registers

theorem mem_registrations_append (rest : List Move) :
    registration ∈ (new settings).registrations (moves ++ rest) := by
  rw [registrations, observed_append]
  exact List.mem_append_left _ registers

/-- An asker has registered once, so that a pending exchange of its own bears that number. -/
theorem number_of_asker {exchange : Exchange}
    (member : exchange ∈ ((new settings).run moves).pending)
    (isOwn : exchange.asker = registration.exchange.asker) :
    exchange.number = registration.exchange.number := by
  obtain ⟨own, isRegistration, same⟩ :=
    (ledger_run settings moves).book.registration_of_pending member
  have sameAsker : own.exchange.asker = registration.exchange.asker := by
    rw [same]
    exact isOwn
  rw [← registration_eq_of_asker isRegistration registers sameAsker, same]
  rfl

/-- Once an exchange has ended, its number never pends again. -/
theorem isGone_run (gone : ((new settings).run moves).IsGone registration.exchange.number)
    (rest : List Move) :
    (((new settings).run moves).run rest).IsGone registration.exchange.number := by
  refine run_invariant (fun _ later => later.IsGone registration.exchange.number)
    ((new settings).run moves) gone ?_ rest
  intro before move isGone exchange member
  have orderly := ((orderly_run settings moves).run before).1
  have bound := (ledger_run settings (moves ++ before)).book.registration_le
    (mem_registrations_append registers before)
  rw [run_append] at bound
  rcases orderly.pending_or_new move exchange member with ⟨earlier, wasPending, same⟩ | isNew
  · have number : earlier.unslotted.number = exchange.unslotted.number := by rw [same]
    exact fun clash => isGone earlier wasPending (number.trans clash)
  · exact fun clash => Nat.not_lt.mpr bound (clash ▸ isNew)

/-- Its letter, if it has one, never reaches a reader any more. -/
theorem deliveries_of_isGone
    (gone : ((new settings).run moves).IsGone registration.exchange.number) (rest : List Move) :
    ∀ letter ∈ ((new settings).run moves).deliveries rest,
      letter.number ≠ registration.exchange.number := by
  refine run_invariant (fun rest _ => ∀ letter ∈ ((new settings).run moves).deliveries rest,
    letter.number ≠ registration.exchange.number) ((new settings).run moves)
    (fun _ member => absurd member List.not_mem_nil) ?_ rest
  intro before move unread letter member
  rw [deliveries_concat] at member
  rcases List.mem_append.mp member with old | isNew
  · exact unread letter old
  · have orderly := ((orderly_run settings moves).run before).1
    obtain ⟨-, exchange, isPending, same, -⟩ :=
      orderly.mem_unread_iff.mp (mem_unread_of_yielded isNew)
    rw [← same]
    exact isGone_run registers gone before exchange isPending

/-- What is done for an ask after its exchange has ended, step by step. -/
theorem aftermath_of_isGone
    (gone : ((new settings).run moves).IsGone registration.exchange.number) {move : Move}
    (isFor : move.IsFor registration.exchange.asker) :
    Aftermath ((new settings).run moves) registration.exchange.asker
      (((new settings).run moves).step move) := by
  obtain ⟨asker, known, heard⟩ := (ledger_run settings moves).origins.begun registration registers
  refine (orderly_run settings moves).aftermath_step (fun exchange member isOwn => ?_) known heard
    isFor
  exact gone exchange member (number_of_asker registers member isOwn)

end Registered

/-- All that is done for an ask after its exchange has ended spares the others. -/
theorem spares_of_isGone {settings : GateSettings} {moves : List Move}
    {registration : Registration} (registers : registration ∈ (new settings).registrations moves)
    (gone : ((new settings).run moves).IsGone registration.exchange.number) {rest : List Move}
    (isFor : ∀ move ∈ rest, move.IsFor registration.exchange.asker) :
    ((new settings).run moves).Spares (((new settings).run moves).run rest)
      registration.exchange.asker := by
  refine run_invariant (fun rest later =>
    (∀ move ∈ rest, move.IsFor registration.exchange.asker) →
      ((new settings).run moves).Spares later registration.exchange.asker)
    ((new settings).run moves) (fun _ => Spares.refl _ _) ?_ rest isFor
  intro before move spared isFor
  have earlier := spared fun other member => isFor other (List.mem_append_left _ member)
  have still := isGone_run registers gone before
  rw [← run_append] at still
  have aftermath := aftermath_of_isGone (mem_registrations_append registers before) still
    (isFor move (List.mem_append_right _ (List.mem_singleton_self move)))
  rw [run_append] at aftermath
  exact earlier.trans aftermath.spares

/-! ### One id, several exchanges -/

/-- An ask whose id is taken when it first runs is refused, nothing else happens, and dropping it
later does nothing. Once an exchange has ended, its number never pends again and its letter never
reaches a reader; and at any time after that, whatever is done for its asker leaves all that is
pending, posted and written down as it is, and the other askers too, but for a slot that goes back
and may be handed on. -/
theorem exchanges_keep_apart (settings : GateSettings) (moves : List Move) {gate : Gate}
    (reached : (new settings).run moves = gate) :
    (∀ (id : AskerId) asker, gate.askers[id]? = some asker → asker.stage = .unheard →
        gate.isPending asker.question.id = true →
          gate.poll id = gate.conclude id (.failed (.duplicate asker.question.id)) ∧
            ∀ rest, ((gate.poll id).run rest).drop id = (gate.poll id).run rest) ∧
      ∀ registration ∈ (new settings).registrations moves,
        gate.IsGone registration.exchange.number → ∀ rest,
          (gate.run rest).IsGone registration.exchange.number ∧
            (∀ letter ∈ gate.deliveries rest, letter.number ≠ registration.exchange.number) ∧
            (∀ letter : Letter, letter.number = registration.exchange.number → ∀ mailbox,
              { gate.run rest with mailbox }.accept letter =
                ({ gate.run rest with mailbox }, none)) ∧
            (∀ move : Move, move.IsFor registration.exchange.asker →
              Aftermath (gate.run rest) registration.exchange.asker ((gate.run rest).step move)) ∧
            ∀ more : List Move, (∀ move ∈ more, move.IsFor registration.exchange.asker) →
              (gate.run rest).Spares ((gate.run rest).run more) registration.exchange.asker := by
  subst reached
  have orderly := orderly_run settings moves
  refine ⟨fun id asker known unheard taken => ?_, fun registration registers gone rest => ?_⟩
  · have refused := orderly.poll_of_taken known unheard taken
    refine ⟨refused, fun rest => ?_⟩
    have ended := askers_updateAsker_self known
      ({ · with stage := .ended (.failed (.duplicate asker.question.id)) })
    have polled := (orderly.poll id).1
    rw [refused] at polled ⊢
    exact drop_of_ended (polled.ended_run ended rfl rest) rfl
  · have still := isGone_run registers gone rest
    have registered := mem_registrations_append registers rest
    refine ⟨still, deliveries_of_isGone registers gone rest,
      fun letter isNumber mailbox => still.accept isNumber mailbox, ?_, ?_⟩
    · rw [← run_append] at still ⊢
      exact fun move isFor => aftermath_of_isGone registered still isFor
    · rw [← run_append] at still ⊢
      exact fun more isFor => spares_of_isGone registered still isFor

/-- The second question of a crowded gate is answered while its asker stands in line, and its id is
asked again, twice. Then the first question is read, and the slot goes to the asker that does not
need one any more. -/
def reasking : List Move :=
  crowding ++ [.submit (declining "Q-2"), .ask .background (.plain "Q-2" "Which day?"), .poll 2,
    .takeSeat, .tryNext, .ask .background (.plain "Q-2" "Which hour?")]

def reasked : Gate :=
  (new { capacity := 1, defaultTimeout := none }).run reasking

/-- The third ask of the id is refused. The first one has a slot in hand when it takes its turn, and
gives it to the second, whose exchange is left as it is. -/
theorem exchanges_keep_apart_reasked :
    reasked.poll 3 = reasked.conclude 3 (.failed (.duplicate "Q-2")) ∧
      reasked.stage? 1 = some (.granted 2) ∧ reasked.stage? 2 = some (.inLine 3) ∧
      reasked.Spares (reasked.poll 1) 1 ∧ (reasked.poll 1).stage? 2 = some (.granted 3) := by
  obtain ⟨refused, spared⟩ :=
    exchanges_keep_apart { capacity := 1, defaultTimeout := none } reasking rfl
  have known : reasked.askers[3]? = some
      { question := .plain "Q-2" "Which hour?", context := .background, stage := .unheard,
        reply := none } := by decide
  have registers : Registration.mk
      { number := 2, question := .plain "Q-2" "Which name?", asker := 1, holdsSlot := false,
        askedAt := .epoch } 0 ∈
      (new { capacity := 1, defaultTimeout := none }).registrations reasking :=
    List.mem_cons_of_mem _ List.mem_cons_self
  have gone : reasked.IsGone 2 := by
    unfold IsGone
    decide
  obtain ⟨-, -, -, -, after⟩ := spared _ registers gone []
  refine ⟨(refused 3 _ known rfl (by decide)).1, by decide, by decide, ?_, by decide⟩
  refine after [.poll 1] fun move member => ?_
  rw [List.mem_singleton.mp member]
  exact .poll

end OperatorDesk.Gate
