/-
This file says when a gate is in order: which exchanges, letters, places in line and stages of
askers fit together. The parts of the order are stated about the parts of the gate that they are
about, so that an operation which leaves those alone keeps them.

While an asker takes its turn, what it has at the gate does not fit its stage for a moment. The
order therefore allows for busy askers, of which nothing is said. The operations inside a turn
keep the order with the asker busy, and the last of them puts the asker where it fits.
-/

import OperatorDesk.Proofs.Gate.Slots

namespace OperatorDesk

/-- The asker waits for the answer to this exchange, and if the exchange holds a slot, for
nothing else. -/
structure Asker.Owns (asker : Asker) (exchange : Exchange) : Prop where
  question : asker.question = exchange.question
  reply : asker.reply = none
  number : asker.stage.number? = some exchange.number
  slot : exchange.holdsSlot = true → asker.stage = .listening exchange.number

namespace Gate

/-- Pending exchanges stand in the order of their numbers, which have all been given out, and are
told apart by their ids. -/
structure Registry (pending : List Exchange) (registered : Nat) : Prop where
  increasing : pending.Pairwise fun left right => left.number < right.number
  numbered : ∀ exchange ∈ pending, exchange.number ≤ registered
  distinct : pending.Pairwise fun left right => left.question.id ≠ right.question.id

/-- A letter of a pending exchange carries its question, and the exchange holds a slot. While the
mailbox can be read, each exchange that holds a slot has its letter there. -/
structure Mail (mailbox : List Letter) (pending : List Exchange) (registered : Nat) (seat : Seat)
    (busy : List AskerId) : Prop where
  apart : mailbox.Pairwise fun left right => left.number ≠ right.number
  numbered : ∀ letter ∈ mailbox, letter.number ≤ registered
  unread : ∀ letter ∈ mailbox, ∀ exchange ∈ pending, exchange.number = letter.number →
    exchange.holdsSlot = true ∧ exchange.question = letter.question
  posted : ∀ exchange ∈ pending, exchange.asker ∉ busy → exchange.holdsSlot = true →
    seat ≠ .gone → ∃ letter ∈ mailbox, letter.number = exchange.number

/-- Those stand in line who wait there, and nobody does while a slot is free. -/
structure Line (line : List AskerId) (free : Nat) (askers : List Asker) (closed : Bool)
    (busy : List AskerId) : Prop where
  nodup : line.Nodup
  exhausted : line ≠ [] → free = 0
  waits : ∀ id ∈ line, id ∉ busy →
    ∃ asker number, askers[id]? = some asker ∧ asker.stage = .inLine number
  stands : ∀ id asker number, askers[id]? = some asker → id ∉ busy →
    asker.stage = .inLine number → closed = false → id ∈ line

/-- Each pending exchange belongs to an asker that waits for it, and until the gate is closed an
asker that waits without a reply has an exchange. -/
structure Ownership (pending : List Exchange) (askers : List Asker) (registered : Nat)
    (closed : Bool) (busy : List AskerId) : Prop where
  owned : ∀ exchange ∈ pending, exchange.asker ∉ busy →
    ∃ asker, askers[exchange.asker]? = some asker ∧ asker.Owns exchange
  awaited : ∀ id asker number, askers[id]? = some asker → id ∉ busy →
    asker.stage.number? = some number → asker.reply = none → closed = false →
    ∃ exchange ∈ pending, exchange.asker = id
  numbered : ∀ id asker number, askers[id]? = some asker → id ∉ busy →
    asker.stage.number? = some number → number ≤ registered
  apart : ∀ left right first second number, askers[left]? = some first →
    askers[right]? = some second → left ∉ busy → right ∉ busy →
    first.stage.number? = some number → second.stage.number? = some number → left = right
  unheard : ∀ id asker, askers[id]? = some asker → id ∉ busy →
    asker.stage = .unheard → asker.reply = none

/-- A closed gate has told everybody so, and nothing waits at it. -/
structure Closing (closed signalled : Bool) (pending : List Exchange) (line : List AskerId) :
    Prop where
  told : signalled = closed
  empty : closed = true → pending = [] ∧ line = []

/-- The gate is in order, but for the askers that are busy. -/
structure Orderly (gate : Gate) (busy : List AskerId) : Prop where
  registry : Registry gate.pending gate.registered
  mail : Mail gate.mailbox gate.pending gate.registered gate.seat busy
  inLine : Line gate.line gate.free gate.askers gate.closed busy
  ownership : Ownership gate.pending gate.askers gate.registered gate.closed busy
  closing : Closing gate.closed gate.signalled gate.pending gate.line
  served : gate.served ≤ gate.now

theorem Orderly.distinctIds {gate : Gate} {busy : List AskerId} (orderly : gate.Orderly busy) :
    gate.DistinctIds :=
  orderly.registry.distinct

theorem Orderly.owns {gate : Gate} (orderly : gate.Orderly []) {id : AskerId} {asker : Asker}
    (known : gate.askers[id]? = some asker) {exchange : Exchange}
    (member : exchange ∈ gate.pending) (isOwn : exchange.asker = id) : asker.Owns exchange := by
  obtain ⟨owner, isOwner, owns⟩ := orderly.ownership.owned exchange member List.not_mem_nil
  rw [isOwn, known, Option.some_inj] at isOwner
  rw [isOwner]
  exact owns

/-- An asker that does not wait has no exchange. -/
theorem Orderly.owns_nothing {gate : Gate} (orderly : gate.Orderly []) {id : AskerId}
    {asker : Asker} (known : gate.askers[id]? = some asker)
    (idle : asker.stage.number? = none) : ∀ exchange ∈ gate.pending, exchange.asker ≠ id := by
  intro exchange member isOwn
  have waits := (orderly.owns known member isOwn).number
  rw [idle] at waits
  cases waits

theorem Orderly.stage_of_mem_line {gate : Gate} (orderly : gate.Orderly []) {id : AskerId}
    {asker : Asker} (known : gate.askers[id]? = some asker) (member : id ∈ gate.line) :
    ∃ number, asker.stage = .inLine number := by
  obtain ⟨standing, number, isStanding, stage⟩ := orderly.inLine.waits id member List.not_mem_nil
  rw [known, Option.some_inj] at isStanding
  exact ⟨number, isStanding ▸ stage⟩

/-- Pending exchanges are told apart by their numbers as well. -/
theorem Registry.eq_of_number {pending : List Exchange} {registered : Nat}
    (registry : Registry pending registered) {left right : Exchange}
    (memberLeft : left ∈ pending) (memberRight : right ∈ pending)
    (same : left.number = right.number) : left = right := by
  have symmetric : Std.Symm fun left right : Exchange => left.number ≠ right.number :=
    ⟨fun _ _ => Ne.symm⟩
  by_contra different
  exact (registry.increasing.imp Nat.ne_of_lt).forall memberLeft memberRight different same

/-- An asker that gets busy is no longer spoken of. -/
theorem Orderly.busier {gate : Gate} {busy : List AskerId} (orderly : gate.Orderly busy)
    (id : AskerId) : gate.Orderly (id :: busy) where
  registry := orderly.registry
  mail :=
    { orderly.mail with
      posted := fun exchange member idle =>
        orderly.mail.posted exchange member (List.not_mem_of_not_mem_cons idle) }
  inLine :=
    { orderly.inLine with
      waits := fun other member idle =>
        orderly.inLine.waits other member (List.not_mem_of_not_mem_cons idle)
      stands := fun other asker number known idle =>
        orderly.inLine.stands other asker number known (List.not_mem_of_not_mem_cons idle) }
  ownership :=
    { owned := fun exchange member idle =>
        orderly.ownership.owned exchange member (List.not_mem_of_not_mem_cons idle)
      awaited := fun other asker number known idle =>
        orderly.ownership.awaited other asker number known (List.not_mem_of_not_mem_cons idle)
      numbered := fun other asker number known idle =>
        orderly.ownership.numbered other asker number known (List.not_mem_of_not_mem_cons idle)
      apart := fun left right first second number isFirst isSecond idleLeft idleRight =>
        orderly.ownership.apart left right first second number isFirst isSecond
          (List.not_mem_of_not_mem_cons idleLeft) (List.not_mem_of_not_mem_cons idleRight)
      unheard := fun other asker known idle =>
        orderly.ownership.unheard other asker known (List.not_mem_of_not_mem_cons idle) }
  closing := orderly.closing
  served := orderly.served

theorem orderly_new (settings : GateSettings) : (new settings).Orderly [] where
  registry :=
    { increasing := List.Pairwise.nil
      numbered := fun _ member => absurd member List.not_mem_nil
      distinct := List.Pairwise.nil }
  mail :=
    { apart := List.Pairwise.nil
      numbered := fun _ member => absurd member List.not_mem_nil
      unread := fun _ member => absurd member List.not_mem_nil
      posted := fun _ member => absurd member List.not_mem_nil }
  inLine :=
    { nodup := List.nodup_nil
      exhausted := fun nonempty => absurd rfl nonempty
      waits := fun _ member => absurd member List.not_mem_nil
      stands := fun _ _ _ known => by cases known }
  ownership :=
    { owned := fun _ member => absurd member List.not_mem_nil
      awaited := fun _ _ _ known => by cases known
      numbered := fun _ _ _ known => by cases known
      apart := fun _ _ _ _ _ known => by cases known
      unheard := fun _ _ known => by cases known }
  closing := { told := rfl, empty := fun _ => ⟨rfl, rfl⟩ }
  served := Nat.le_refl 0

/-! ### Changing one asker -/

/-- The asker with this id would fit what the gate holds for it. -/
structure Fits (gate : Gate) (busy : List AskerId) (id : AskerId) (asker : Asker) : Prop where
  owns : ∀ exchange ∈ gate.pending, exchange.asker = id → asker.Owns exchange
  posted : ∀ exchange ∈ gate.pending, exchange.asker = id → exchange.holdsSlot = true →
    gate.seat ≠ .gone → ∃ letter ∈ gate.mailbox, letter.number = exchange.number
  awaits : ∀ number, asker.stage.number? = some number → asker.reply = none →
    gate.closed = false → ∃ exchange ∈ gate.pending, exchange.asker = id
  numbered : ∀ number, asker.stage.number? = some number → number ≤ gate.registered
  alone : ∀ number, asker.stage.number? = some number → ∀ other known,
    gate.askers[other]? = some known → other ≠ id → other ∉ busy →
    known.stage.number? ≠ some number
  inLine : id ∈ gate.line → ∃ number, asker.stage = .inLine number
  stands : ∀ number, asker.stage = .inLine number → gate.closed = false → id ∈ gate.line
  unheard : asker.stage = .unheard → asker.reply = none

/-- A busy asker that is changed into one that fits is busy no longer. -/
theorem Orderly.updateAsker {gate : Gate} {busy : List AskerId} {id : AskerId} {asker : Asker}
    (orderly : gate.Orderly (id :: busy)) (known : gate.askers[id]? = some asker)
    (change : Asker → Asker) (fits : gate.Fits busy id (change asker)) :
    (gate.updateAsker id change).Orderly busy := by
  have self := askers_updateAsker_self known change
  have others : ∀ {other : AskerId}, other ≠ id →
      (gate.updateAsker id change).askers[other]? = gate.askers[other]? :=
    fun different => askers_updateAsker_of_ne gate different change
  have idle : ∀ {other : AskerId}, other ≠ id → other ∉ busy → other ∉ id :: busy :=
    fun different absent => List.not_mem_cons_of_ne_of_not_mem different absent
  refine ⟨orderly.registry, { orderly.mail with posted := ?_ }, ⟨orderly.inLine.nodup,
    orderly.inLine.exhausted, ?_, ?_⟩, ⟨?_, ?_, ?_, ?_, ?_⟩, orderly.closing, orderly.served⟩
  · intro exchange member notBusy holds
    by_cases same : exchange.asker = id
    · exact fits.posted exchange member same holds
    · exact orderly.mail.posted exchange member (idle same notBusy) holds
  · intro other member notBusy
    by_cases same : other = id
    · subst same
      obtain ⟨number, stage⟩ := fits.inLine member
      exact ⟨change asker, number, self, stage⟩
    · rw [others same]
      exact orderly.inLine.waits other member (idle same notBusy)
  · intro other current number isCurrent notBusy stage
    obtain ⟨rfl, rfl⟩ | ⟨different, before⟩ := askers_updateAsker_cases known isCurrent
    · exact fits.stands number stage
    · exact orderly.inLine.stands other current number before (idle different notBusy) stage
  · intro exchange member notBusy
    by_cases same : exchange.asker = id
    · exact ⟨change asker, by rw [same]; exact self, fits.owns exchange member same⟩
    · rw [others same]
      exact orderly.ownership.owned exchange member (idle same notBusy)
  · intro other current number isCurrent notBusy
    obtain ⟨rfl, rfl⟩ | ⟨different, before⟩ := askers_updateAsker_cases known isCurrent
    · exact fits.awaits number
    · exact orderly.ownership.awaited other current number before (idle different notBusy)
  · intro other current number isCurrent notBusy
    obtain ⟨rfl, rfl⟩ | ⟨different, before⟩ := askers_updateAsker_cases known isCurrent
    · exact fits.numbered number
    · exact orderly.ownership.numbered other current number before (idle different notBusy)
  · intro left right first second number isFirst isSecond leftIdle rightIdle firstNumber
      secondNumber
    obtain ⟨rfl, rfl⟩ | ⟨leftDifferent, leftBefore⟩ := askers_updateAsker_cases known isFirst <;>
      obtain ⟨rfl, rfl⟩ | ⟨rightDifferent, rightBefore⟩ :=
        askers_updateAsker_cases known isSecond
    · rfl
    · exact absurd secondNumber
        (fits.alone number firstNumber right second rightBefore rightDifferent rightIdle)
    · exact absurd firstNumber
        (fits.alone number secondNumber left first leftBefore leftDifferent leftIdle)
    · exact orderly.ownership.apart left right first second number leftBefore rightBefore
        (idle leftDifferent leftIdle) (idle rightDifferent rightIdle) firstNumber secondNumber
  · intro other current isCurrent notBusy
    obtain ⟨rfl, rfl⟩ | ⟨different, before⟩ := askers_updateAsker_cases known isCurrent
    · exact fits.unheard
    · exact orderly.ownership.unheard other current before (idle different notBusy)

/-- Whatever happens to a busy asker, the others stay in order. -/
theorem Orderly.updateBusy {gate : Gate} {busy : List AskerId} (orderly : gate.Orderly busy)
    {id : AskerId} (isBusy : id ∈ busy) (change : Asker → Asker) :
    (gate.updateAsker id change).Orderly busy := by
  have others : ∀ {other : AskerId}, other ∉ busy →
      (gate.updateAsker id change).askers[other]? = gate.askers[other]? :=
    fun idle => askers_updateAsker_of_ne gate (fun same => idle (by rw [same]; exact isBusy)) change
  refine ⟨orderly.registry, orderly.mail, { orderly.inLine with waits := ?_, stands := ?_ },
    ⟨?_, ?_, ?_, ?_, ?_⟩, orderly.closing, orderly.served⟩
  · intro other member idle
    rw [others idle]
    exact orderly.inLine.waits other member idle
  · intro other asker number known idle
    rw [others idle] at known
    exact orderly.inLine.stands other asker number known idle
  · intro exchange member idle
    rw [others idle]
    exact orderly.ownership.owned exchange member idle
  · intro other asker number known idle
    rw [others idle] at known
    exact orderly.ownership.awaited other asker number known idle
  · intro other asker number known idle
    rw [others idle] at known
    exact orderly.ownership.numbered other asker number known idle
  · intro left right first second number isFirst isSecond leftIdle rightIdle
    rw [others leftIdle] at isFirst
    rw [others rightIdle] at isSecond
    exact orderly.ownership.apart left right first second number isFirst isSecond leftIdle rightIdle
  · intro other asker known idle
    rw [others idle] at known
    exact orderly.ownership.unheard other asker known idle

end Gate

end OperatorDesk
