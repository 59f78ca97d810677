/-
This file shows that the operations out of which moves are made keep a gate in order, and what
they do to the number of slots. A slot that is given back goes to the head of the line or becomes
free, and counts in either place. Taking an exchange out leaves the slot that it held in the hand
of the caller, who gives it back.
-/

import OperatorDesk.Proofs.Gate.Order

namespace OperatorDesk

/-- The asker after a slot was handed to it. -/
def Asker.handed (asker : Asker) : Asker :=
  match asker.stage with
  | .inLine number => { asker with stage := .granted number }
  | _ => asker

theorem Asker.handed_of_inLine {asker : Asker} {number : Nat}
    (stage : asker.stage = .inLine number) :
    asker.handed = { asker with stage := .granted number } := by
  unfold Asker.handed
  rw [stage]

theorem Asker.handed_of_ne {asker : Asker} (elsewhere : ∀ number, asker.stage ≠ .inLine number) :
    asker.handed = asker := by
  unfold Asker.handed
  split
  · exact absurd ‹_› (elsewhere _)
  · rfl

theorem Asker.handed_handed (asker : Asker) : asker.handed.handed = asker.handed := by
  cases stage : asker.stage <;> simp [Asker.handed, stage]

theorem Asker.number?_handed (asker : Asker) :
    asker.handed.stage.number? = asker.stage.number? := by
  cases stage : asker.stage <;> simp [Asker.handed, Stage.number?, stage]

namespace Gate

/-! ### Giving a slot back -/

theorem releaseSlot_of_nil {gate : Gate} (nobody : gate.line = []) :
    gate.releaseSlot = { gate with free := gate.free + 1 } := by
  rw [releaseSlot, nobody]

theorem releaseSlot_of_cons {gate : Gate} {next : AskerId} {rest : List AskerId}
    (isLine : gate.line = next :: rest) :
    gate.releaseSlot =
      { gate with
        line := rest
        askers := gate.askers.modify next Asker.handed
        woken := gate.woken ++ [.asker next] } := by
  rw [releaseSlot, isLine]
  rfl

/-- What giving a slot back leaves alone. -/
theorem releaseSlot_frame (gate : Gate) :
    ∃ free line askers woken, gate.releaseSlot = { gate with free, line, askers, woken } := by
  cases isLine : gate.line with
  | nil => exact ⟨gate.free + 1, gate.line, gate.askers, gate.woken, releaseSlot_of_nil isLine⟩
  | cons next rest =>
    exact ⟨gate.free, rest, gate.askers.modify next Asker.handed, gate.woken ++ [.asker next],
      releaseSlot_of_cons isLine⟩

/-- Without its head the line is in order if the head is busy. -/
theorem Orderly.tailLine {gate : Gate} {busy : List AskerId} (orderly : gate.Orderly busy)
    {next : AskerId} {rest : List AskerId} (isLine : gate.line = next :: rest) :
    { gate with line := rest }.Orderly (next :: busy) := by
  have nodup : (next :: rest).Nodup := isLine ▸ orderly.inLine.nodup
  have busier := orderly.busier next
  refine ⟨busier.registry, busier.mail, ⟨(List.nodup_cons.mp nodup).2, ?_, ?_, ?_⟩,
    busier.ownership, ⟨busier.closing.told, ?_⟩, busier.served⟩
  · exact fun _ => orderly.inLine.exhausted (by rw [isLine]; exact List.cons_ne_nil next rest)
  · exact fun other member => busier.inLine.waits other (isLine ▸ List.mem_cons_of_mem next member)
  · intro other asker number known idle stage stillOpen
    have member := busier.inLine.stands other asker number known idle stage stillOpen
    rw [isLine] at member
    exact (List.mem_cons.mp member).resolve_left (List.ne_of_not_mem_cons idle)
  · intro isClosed
    have nobody := (busier.closing.empty isClosed).2
    rw [isLine] at nobody
    cases nobody

/-- Giving a slot back keeps the order, unless a busy asker stands in line. -/
theorem Orderly.releaseSlot {gate : Gate} {busy : List AskerId} (orderly : gate.Orderly busy)
    (away : ∀ id ∈ busy, id ∉ gate.line) : gate.releaseSlot.Orderly busy := by
  cases isLine : gate.line with
  | nil =>
    rw [releaseSlot_of_nil isLine]
    exact { orderly with
      inLine := { orderly.inLine with exhausted := fun nonempty => absurd isLine nonempty } }
  | cons next rest =>
    have first : next ∈ gate.line := isLine ▸ List.mem_cons_self
    have idle : next ∉ busy := fun member => away next member first
    obtain ⟨asker, number, known, stage⟩ := orderly.inLine.waits next first idle
    have handed := Asker.handed_of_inLine stage
    have hasNumber : asker.stage.number? = some number := by rw [stage]; rfl
    have keepsNumber : asker.handed.stage.number? = some number := by rw [handed]; rfl
    have sameNumber : ∀ {other}, asker.handed.stage.number? = some other → other = number :=
      fun equal => Option.some_inj.mp (equal.symm.trans keepsNumber)
    have nodup : (next :: rest).Nodup := isLine ▸ orderly.inLine.nodup
    -- An exchange of somebody in line holds no slot, so it is still owned after the grant.
    have owns : ∀ exchange ∈ gate.pending, exchange.asker = next →
        asker.Owns exchange ∧ exchange.holdsSlot = false := by
      intro exchange member isOwn
      obtain ⟨owner, ownerKnown, ownerOwns⟩ :=
        orderly.ownership.owned exchange member (isOwn ▸ idle)
      rw [isOwn, known, Option.some_inj] at ownerKnown
      subst ownerKnown
      refine ⟨ownerOwns, Bool.eq_false_iff.mpr fun holds => ?_⟩
      have listening := ownerOwns.slot holds
      rw [stage] at listening
      cases listening
    have fits : { gate with line := rest }.Fits busy next asker.handed := by
      refine ⟨?_, ?_, ?_, ?_, ?_, ?_, ?_, ?_⟩
      · intro exchange member isOwn
        obtain ⟨ownerOwns, slotless⟩ := owns exchange member isOwn
        refine ⟨?_, ?_, ?_, fun holds => absurd holds (by simp [slotless])⟩
        · rw [handed]; exact ownerOwns.question
        · rw [handed]; exact ownerOwns.reply
        · rw [keepsNumber, ← hasNumber]; exact ownerOwns.number
      · intro exchange member isOwn holds
        exact absurd holds (by simp [(owns exchange member isOwn).2])
      · intro _ _ silent
        rw [handed] at silent
        exact orderly.ownership.awaited next asker number known idle hasNumber silent
      · intro other equal
        rw [sameNumber equal]
        exact orderly.ownership.numbered next asker number known idle hasNumber
      · intro other equal position current isCurrent different notBusy clash
        rw [sameNumber equal] at clash
        exact different (orderly.ownership.apart position next current asker number isCurrent known
          notBusy idle clash hasNumber)
      · exact fun member => absurd member (List.nodup_cons.mp nodup).1
      · intro other waiting
        rw [handed] at waiting
        cases waiting
      · intro unheard
        rw [handed] at unheard
        cases unheard
    rw [releaseSlot_of_cons isLine]
    have kept := (orderly.tailLine isLine).updateAsker known Asker.handed fits
    exact { kept with }

/-- A slot that is given back counts again. -/
theorem Orderly.slots_releaseSlot {gate : Gate} {busy : List AskerId}
    (orderly : gate.Orderly busy) (away : ∀ id ∈ busy, id ∉ gate.line) :
    gate.releaseSlot.slots = gate.slots + 1 := by
  cases isLine : gate.line with
  | nil =>
    rw [releaseSlot_of_nil isLine]
    simp only [slots, held, granted]
    omega
  | cons next rest =>
    have first : next ∈ gate.line := isLine ▸ List.mem_cons_self
    obtain ⟨asker, number, known, stage⟩ :=
      orderly.inLine.waits next first fun member => away next member first
    have counted : (gate.updateAsker next Asker.handed).granted + 0 = gate.granted + 1 := by
      have moved := granted_updateAsker known Asker.handed
      rw [Asker.handed_of_inLine stage, stage] at moved
      exact moved
    rw [releaseSlot_of_cons isLine]
    show gate.free + gate.held + (gate.updateAsker next Asker.handed).granted = _
    rw [slots]
    omega

theorem askers_releaseSlot_of_not_mem {gate : Gate} {id : AskerId} (absent : id ∉ gate.line) :
    gate.releaseSlot.askers[id]? = gate.askers[id]? := by
  cases isLine : gate.line with
  | nil => rw [releaseSlot_of_nil isLine]
  | cons next rest =>
    rw [releaseSlot_of_cons isLine]
    have different : next ≠ id := by
      intro same
      rw [isLine, same] at absent
      exact absent List.mem_cons_self
    exact List.getElem?_modify_ne Asker.handed gate.askers different

theorem mem_line_of_mem_releaseSlot {gate : Gate} {id : AskerId}
    (member : id ∈ gate.releaseSlot.line) : id ∈ gate.line := by
  cases isLine : gate.line with
  | nil => rwa [releaseSlot_of_nil isLine, isLine] at member
  | cons next rest =>
    rw [releaseSlot_of_cons isLine] at member
    exact List.mem_cons_of_mem next member

/-! ### Giving back the slot of an exchange -/

theorem pending_releaseOf (gate : Gate) (exchange : Exchange) :
    (gate.releaseOf exchange).pending = gate.pending := by
  unfold releaseOf
  split
  · obtain ⟨_, _, _, _, same⟩ := releaseSlot_frame gate
    rw [same]
  · rfl

theorem askers_releaseOf_of_not_mem (gate : Gate) {id : AskerId} (absent : id ∉ gate.line)
    (exchange : Exchange) : (gate.releaseOf exchange).askers[id]? = gate.askers[id]? := by
  unfold releaseOf
  split
  · exact askers_releaseSlot_of_not_mem absent
  · rfl

theorem mem_line_of_mem_releaseOf (gate : Gate) {id : AskerId} {exchange : Exchange}
    (member : id ∈ (gate.releaseOf exchange).line) : id ∈ gate.line := by
  unfold releaseOf at member
  split at member
  · exact mem_line_of_mem_releaseSlot member
  · exact member

/-- The slot of an exchange that was taken out goes back, or there was none. -/
theorem Orderly.releaseOf {gate : Gate} {busy : List AskerId} (orderly : gate.Orderly busy)
    (away : ∀ id ∈ busy, id ∉ gate.line) (exchange : Exchange) :
    (gate.releaseOf exchange).Orderly busy := by
  unfold Gate.releaseOf
  split
  · exact orderly.releaseSlot away
  · exact orderly

theorem Orderly.slots_releaseOf {gate : Gate} {busy : List AskerId}
    (orderly : gate.Orderly busy) (away : ∀ id ∈ busy, id ∉ gate.line) (exchange : Exchange) :
    (gate.releaseOf exchange).slots = gate.slots + exchange.holdsSlot.toNat := by
  unfold Gate.releaseOf
  split
  · next holds => rw [orderly.slots_releaseSlot away, holds, Bool.toNat_true]
  · next slotless => rw [Bool.eq_false_iff.mpr slotless, Bool.toNat_false, Nat.add_zero]

/-! ### Taking an exchange out -/

/-- An exchange of a busy asker can be taken out. -/
theorem Orderly.removePending {gate : Gate} {busy : List AskerId} (orderly : gate.Orderly busy)
    {found : Exchange} (isFound : gate.find? found.question.id = some found)
    (isBusy : found.asker ∈ busy) : (gate.removePending found.question.id).Orderly busy := by
  have sublist : (gate.removePending found.question.id).pending.Sublist gate.pending :=
    List.filter_sublist
  refine ⟨⟨orderly.registry.increasing.sublist sublist, ?_, orderly.registry.distinct.sublist
    sublist⟩, ⟨orderly.mail.apart, orderly.mail.numbered, ?_, ?_⟩, orderly.inLine,
    { orderly.ownership with owned := ?_, awaited := ?_ }, ⟨orderly.closing.told, ?_⟩,
    orderly.served⟩
  · exact fun exchange member => orderly.registry.numbered exchange (sublist.subset member)
  · exact fun letter isLetter exchange member =>
      orderly.mail.unread letter isLetter exchange (sublist.subset member)
  · exact fun exchange member => orderly.mail.posted exchange (sublist.subset member)
  · exact fun exchange member => orderly.ownership.owned exchange (sublist.subset member)
  · intro id asker number known idle hasNumber silent stillOpen
    obtain ⟨exchange, member, isOwn⟩ :=
      orderly.ownership.awaited id asker number known idle hasNumber silent stillOpen
    refine ⟨exchange, mem_removePending.mpr ⟨member, fun same => idle ?_⟩, isOwn⟩
    rw [← isOwn, orderly.distinctIds.eq_of_id member (mem_of_find? isFound) same]
    exact isBusy
  · intro isClosed
    have empty := orderly.closing.empty isClosed
    exact ⟨List.eq_nil_of_subset_nil (empty.1 ▸ sublist.subset), empty.2⟩

/-- Taking an exchange out takes its slot out of the count. -/
theorem DistinctIds.slots_removePending {gate : Gate} (distinct : gate.DistinctIds) {id : String}
    {found : Exchange} (isFound : gate.find? id = some found) :
    (gate.removePending id).slots + found.holdsSlot.toNat = gate.slots := by
  have counted := distinct.held_eq isFound
  show gate.free + (gate.removePending id).held + gate.granted + _ = _
  rw [slots, counted]
  omega

/-! ### Marking a slot -/

/-- Marking a slot keeps the order if the letters that are there then fit. Only the exchange of a
busy asker may be marked as holding one. -/
theorem Orderly.markSlot {gate : Gate} {busy : List AskerId} (orderly : gate.Orderly busy)
    {found : Exchange} (isFound : gate.find? found.question.id = some found) {holdsSlot : Bool}
    {mailbox : List Letter}
    (mail : Mail mailbox (gate.markSlot found.question.id holdsSlot).pending gate.registered
      gate.seat busy)
    (isBusy : holdsSlot = true → found.asker ∈ busy) :
    { gate with
      mailbox, pending := (gate.markSlot found.question.id holdsSlot).pending }.Orderly busy := by
  have distinct := orderly.distinctIds
  have member := fun {exchange : Exchange} => distinct.mem_markSlot isFound holdsSlot exchange
  refine ⟨⟨?_, ?_, distinct.markSlot found.question.id holdsSlot⟩, mail, orderly.inLine,
    { orderly.ownership with owned := ?_, awaited := ?_ }, ⟨orderly.closing.told, ?_⟩,
    orderly.served⟩
  · refine List.pairwise_map.mpr (orderly.registry.increasing.imp fun {left right} less => ?_)
    split <;> split <;> exact less
  · intro exchange isMember
    rcases member.mp isMember with rfl | ⟨isPending, -⟩
    · exact orderly.registry.numbered found (mem_of_find? isFound)
    · exact orderly.registry.numbered exchange isPending
  · intro exchange isMember idle
    rcases member.mp isMember with rfl | ⟨isPending, -⟩
    · obtain ⟨asker, known, owns⟩ := orderly.ownership.owned found (mem_of_find? isFound) idle
      exact ⟨asker, known, owns.question, owns.reply, owns.number,
        fun holds => absurd (isBusy holds) idle⟩
    · exact orderly.ownership.owned exchange isPending idle
  · intro id asker number known idle hasNumber silent stillOpen
    obtain ⟨exchange, isPending, isOwn⟩ :=
      orderly.ownership.awaited id asker number known idle hasNumber silent stillOpen
    by_cases same : exchange.question.id = found.question.id
    · have equal := distinct.eq_of_id isPending (mem_of_find? isFound) same
      exact ⟨{ found with holdsSlot }, member.mpr (Or.inl rfl), equal ▸ isOwn⟩
    · exact ⟨exchange, member.mpr (Or.inr ⟨isPending, same⟩), isOwn⟩
  · intro isClosed
    have empty := orderly.closing.empty isClosed
    exact ⟨by simp only [Gate.markSlot, empty.1, List.map_nil], empty.2⟩

/-- The letters fit an exchange of a busy asker that is marked as holding a slot, if it held none
before: then it has no letter yet. -/
theorem Orderly.mail_markSlot {gate : Gate} {busy : List AskerId} (orderly : gate.Orderly busy)
    {found : Exchange} (isFound : gate.find? found.question.id = some found)
    (slotless : found.holdsSlot = false) (isBusy : found.asker ∈ busy) :
    Mail gate.mailbox (gate.markSlot found.question.id true).pending gate.registered gate.seat
      busy := by
  have member := fun {exchange : Exchange} =>
    orderly.distinctIds.mem_markSlot isFound true exchange
  refine { orderly.mail with unread := ?_, posted := ?_ }
  · intro letter isLetter exchange isMember same
    rcases member.mp isMember with rfl | ⟨isPending, -⟩
    · have holds := (orderly.mail.unread letter isLetter found (mem_of_find? isFound) same).1
      rw [slotless] at holds
      cases holds
    · exact orderly.mail.unread letter isLetter exchange isPending same
  · intro exchange isMember idle
    rcases member.mp isMember with rfl | ⟨isPending, -⟩
    · exact absurd isBusy idle
    · exact orderly.mail.posted exchange isPending idle

/-- The count changes as the mark does. -/
theorem DistinctIds.slots_markSlot {gate : Gate} (distinct : gate.DistinctIds) {id : String}
    {found : Exchange} (isFound : gate.find? id = some found) (holdsSlot : Bool) :
    (gate.markSlot id holdsSlot).slots + found.holdsSlot.toNat =
      gate.slots + holdsSlot.toNat := by
  have marked := distinct.held_markSlot isFound holdsSlot
  have counted := distinct.held_eq isFound
  show gate.free + (gate.markSlot id holdsSlot).held + gate.granted + _ = _
  rw [slots, marked, counted]
  omega

/-! ### Letters -/

/-- What putting a letter into the mailbox leaves alone. -/
theorem post_frame (gate : Gate) (number : Nat) (question : Question) :
    ∃ woken, gate.post number question =
      { gate with mailbox := gate.mailbox ++ [Letter.mk number question], woken } := by
  unfold post wakeReader
  split
  · exact ⟨_, rfl⟩
  · exact ⟨_, rfl⟩

/-- A letter can be put into the mailbox for an exchange that holds a slot and has none there. -/
theorem Orderly.post {gate : Gate} {busy : List AskerId} (orderly : gate.Orderly busy)
    {exchange : Exchange} (isPending : exchange ∈ gate.pending)
    (holds : exchange.holdsSlot = true)
    (fresh : ∀ letter ∈ gate.mailbox, letter.number ≠ exchange.number) :
    (gate.post exchange.number exchange.question).Orderly busy := by
  obtain ⟨woken, posted⟩ := post_frame gate exchange.number exchange.question
  rw [posted]
  refine ⟨orderly.registry, ⟨?_, ?_, ?_, ?_⟩, orderly.inLine, orderly.ownership,
    orderly.closing, orderly.served⟩
  · refine List.pairwise_append.mpr ⟨orderly.mail.apart, List.pairwise_singleton _ _, ?_⟩
    intro letter isLetter last isLast
    rw [List.mem_singleton.mp isLast]
    exact fresh letter isLetter
  · intro letter isLetter
    rcases List.mem_append.mp isLetter with before | last
    · exact orderly.mail.numbered letter before
    · rw [List.mem_singleton.mp last]
      exact orderly.registry.numbered exchange isPending
  · intro letter isLetter other isMember same
    rcases List.mem_append.mp isLetter with before | last
    · exact orderly.mail.unread letter before other isMember same
    · rw [List.mem_singleton.mp last] at same ⊢
      have equal : other = exchange := orderly.registry.eq_of_number isMember isPending same
      exact ⟨equal ▸ holds, by rw [equal]⟩
  · intro other isMember idle holdsOther readable
    obtain ⟨letter, isLetter, same⟩ := orderly.mail.posted other isMember idle holdsOther readable
    exact ⟨letter, List.mem_append_left _ isLetter, same⟩

/-! ### Registering -/

/-- A question can be registered for an asker that is busy, while its id is not pending. -/
theorem Orderly.register {gate : Gate} {busy : List AskerId} (orderly : gate.Orderly busy)
    {id : AskerId} {question : Question} (isBusy : id ∈ busy) (stillOpen : gate.closed = false)
    (free : gate.isPending question.id = false) : (gate.register id question).Orderly busy := by
  have absent := isPending_eq_false_iff.mp free
  have split : ∀ {exchange : Exchange}, exchange ∈ (gate.register id question).pending →
      exchange ∈ gate.pending ∨
        exchange = Exchange.mk (gate.registered + 1) question id false gate.wallClock :=
    fun member => (List.mem_append.mp member).imp_right List.mem_singleton.mp
  refine ⟨⟨?_, ?_, ?_⟩, ⟨orderly.mail.apart, ?_, ?_, ?_⟩, orderly.inLine,
    { orderly.ownership with owned := ?_, awaited := ?_, numbered := ?_ },
    ⟨orderly.closing.told, fun isClosed => absurd isClosed (by simp [Gate.register, stillOpen])⟩,
    orderly.served⟩
  · refine List.pairwise_append.mpr ⟨orderly.registry.increasing, List.pairwise_singleton _ _, ?_⟩
    intro exchange member last isLast
    rw [List.mem_singleton.mp isLast]
    exact Nat.lt_succ_of_le (orderly.registry.numbered exchange member)
  · intro exchange member
    rcases split member with before | rfl
    · exact Nat.le_succ_of_le (orderly.registry.numbered exchange before)
    · exact Nat.le_refl _
  · refine List.pairwise_append.mpr ⟨orderly.registry.distinct, List.pairwise_singleton _ _, ?_⟩
    intro exchange member last isLast
    rw [List.mem_singleton.mp isLast]
    exact absent exchange member
  · exact fun letter isLetter => Nat.le_succ_of_le (orderly.mail.numbered letter isLetter)
  · intro letter isLetter exchange member same
    rcases split member with before | rfl
    · exact orderly.mail.unread letter isLetter exchange before same
    · have bound := orderly.mail.numbered letter isLetter
      simp only at same
      omega
  · intro exchange member idle holds readable
    rcases split member with before | rfl
    · exact orderly.mail.posted exchange before idle holds readable
    · cases holds
  · intro exchange member idle
    rcases split member with before | rfl
    · exact orderly.ownership.owned exchange before idle
    · exact absurd isBusy idle
  · intro other asker number known idle hasNumber silent isOpen
    obtain ⟨exchange, member, isOwn⟩ :=
      orderly.ownership.awaited other asker number known idle hasNumber silent isOpen
    exact ⟨exchange, List.mem_append_left _ member, isOwn⟩
  · exact fun other asker number known idle hasNumber =>
      Nat.le_succ_of_le (orderly.ownership.numbered other asker number known idle hasNumber)

theorem slots_register (gate : Gate) (id : AskerId) (question : Question) :
    (gate.register id question).slots = gate.slots := by
  show gate.free + List.countP Exchange.holdsSlot (gate.pending ++ [_]) + gate.granted = _
  rw [List.countP_append]
  rfl

end Gate

end OperatorDesk
