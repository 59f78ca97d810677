/-
This file says how the shell's queue and the gate agree after a poll. Every question that was read
and is still pending is queued, under ids that are all different; nothing is left to be read, and
polling again changes nothing. Whatever is queued has an exchange pending under its id, and this
exchange was read, unless the id has been registered again since and the new exchange waits for a
slot.
-/

import OperatorDesk.Proofs.Desk.Answering

namespace OperatorDesk

namespace Gate

variable {gate : Gate}

/-- Draining twice takes nothing the second time. -/
theorem Orderly.drain_drain (orderly : gate.Orderly []) :
    gate.drain.1.drain = (gate.drain.1, []) := by
  cases isClosed : gate.closed with
  | true => rw [(orderly.over isClosed).drain, (orderly.over isClosed).drain]
  | false =>
    have isOpen : gate.signalled = false := orderly.closing.told.trans isClosed
    have empty : gate.drain.1.mailbox = [] :=
      (orderly.reads_drainUpTo isOpen (Nat.le_refl _)).2.2
    rw [Gate.drain, empty]
    rfl

end Gate

namespace Desk

variable {Picture : Type} {desk : Desk Picture}

/-- The queue and the gate agree. -/
structure Aligned (desk : Desk Picture) (posted delivered : List Letter) : Prop where
  distinct : (desk.shell.questions.map Question.id).Nodup
  queued : ∀ exchange ∈ desk.gate.pending, exchange.number ∈ delivered.map Letter.number →
    exchange.question.id ∈ desk.shell.questions.map Question.id
  /-- What is queued has an exchange under its id that was read, or that came later and was not put
  into the mailbox yet. -/
  backed : ∀ question ∈ desk.shell.questions, ∃ exchange ∈ desk.gate.pending,
    exchange.question.id = question.id ∧
      (exchange.number ∈ delivered.map Letter.number ∨
        exchange.number ∉ posted.map Letter.number ∧
          ∃ shown ∈ delivered, shown.question = question ∧ shown.number < exchange.number)
  unread : desk.gate.unread = []
  settled : desk.poll = (desk, false)

theorem pending_of_queued (reads : desk.reads = true) (going : desk.shell.quitting = false)
    {question : Question} (isQueued : question ∈ desk.poll.1.shell.questions) :
    ∃ exchange ∈ desk.poll.1.gate.pending, exchange.question.id = question.id := by
  rw [show desk.poll.1.shell.questions = _ from congrArg Prod.fst (queue_poll reads going)]
    at isQueued
  obtain ⟨exchange, member, same⟩ := List.any_eq_true.mp (List.mem_filter.mp isQueued).2
  rw [gate_poll reads]
  exact ⟨exchange, member, beq_iff_eq.mp same⟩

/-- A poll that finds nothing to read and everything in the queue pending changes nothing. -/
theorem poll_eq_self (reads : desk.reads = true) (nothing : desk.gate.drain = (desk.gate, []))
    (backed : ∀ question ∈ desk.shell.questions,
      ∃ exchange ∈ desk.gate.pending, exchange.question.id = question.id) :
    desk.poll = (desk, false) := by
  have none : withdrawn desk.shell desk.gate = [] := by
    refine List.filter_eq_nil_iff.mpr fun id member => ?_
    obtain ⟨question, isQueued, rfl⟩ := List.mem_map.mp member
    obtain ⟨exchange, isPending, same⟩ := backed question isQueued
    have found : desk.gate.isPending question.id = true :=
      List.any_eq_true.mpr ⟨exchange, isPending, beq_iff_eq.mpr same⟩
    rw [found]
    exact Bool.false_ne_true
  simp only [Desk.poll, collect, if_pos reads, nothing]
  rw [show tellAll desk.shell Event.asked [] = desk.shell from rfl, none]
  rfl

/-- A poll leaves nothing to do for the next one. -/
theorem poll_poll (orderly : desk.gate.Orderly []) (reads : desk.reads = true)
    (going : desk.shell.quitting = false) : desk.poll.1.poll = (desk.poll.1, false) := by
  refine poll_eq_self reads ?_ fun question isQueued => pending_of_queued reads going isQueued
  rw [gate_poll reads]
  exact orderly.drain_drain

/-- When nothing is left to be read, what is pending was read or was not put into the mailbox. -/
theorem delivered_of_posted {gate : Gate} {posted delivered : List Letter}
    (mailed : gate.Mailed posted delivered) (orderly : gate.Orderly [])
    (readable : gate.seat ≠ .gone) (nothing : gate.unread = []) {exchange : Exchange}
    (member : exchange ∈ gate.pending) (isPosted : exchange.number ∈ posted.map Letter.number) :
    exchange.number ∈ delivered.map Letter.number := by
  rcases mailed.readOrWaiting orderly readable member isPosted with ⟨-, isRead, -⟩ | ⟨holds, -, -⟩
  · exact isRead
  · obtain ⟨letter, isLetter, same⟩ :=
      orderly.mail.posted exchange member List.not_mem_nil holds readable
    have sameQuestion := (orderly.mail.unread letter isLetter exchange member same.symm).2
    have isUnread := orderly.mem_unread_iff.mpr
      ⟨isLetter, exchange, member, same.symm, sameQuestion⟩
    rw [nothing] at isUnread
    cases isUnread

/-- After a poll the queue and the gate agree, unless the operator has quit. -/
theorem poll_aligns (settings : GateSettings) (before : List Gate.Move)
    (unread : ∀ move ∈ before, move.isReading = false) (embed : Dashboard → Picture)
    (compactBelow : Nat)
    (reads : (Desk.new embed ((Gate.new settings).run before) compactBelow).reads = true)
    (moves : List Move) {desk : Desk Picture}
    (reached : (Desk.new embed ((Gate.new settings).run before) compactBelow).run
      (moves ++ [.poll]) = desk)
    {course : List Gate.Move}
    (isCourse : (Desk.new embed ((Gate.new settings).run before) compactBelow).gateCourse before
      (moves ++ [.poll]) = course)
    (continues : desk.shell.quitting = false) :
    desk.Aligned ((Gate.new settings).postings course)
      ((Gate.new settings).deliveries course) := by
  have opening := opening_new unread embed compactBelow reads
  have informed := opening.informed_run (moves ++ [.poll])
  have isGate := opening.gate_run (moves ++ [.poll])
  -- The desk before the poll.
  have reading := (opening.informed_run moves).reads
  have earlier := Gate.orderly_run settings
    ((Desk.new embed ((Gate.new settings).run before) compactBelow).gateCourse before moves)
  rw [← opening.gate_run] at earlier
  rw [reached, isCourse] at informed isGate
  rw [run_concat] at reached
  generalize (Desk.new embed ((Gate.new settings).run before) compactBelow).run moves = last
    at reading earlier reached
  have going : last.shell.quitting = false := by
    refine Bool.eq_false_iff.mpr fun quit => ?_
    rw [← reached, step, shell_poll_of_quitting quit, quit] at continues
    cases continues
  have nothing : desk.gate.unread = [] := by
    rw [← reached, step, gate_poll reading]
    exact earlier.unread_drain
  have mailed := Gate.mailed_run settings course
  have orderly := Gate.orderly_run settings course
  rw [← isGate] at mailed orderly
  refine ⟨informed.distinct, informed.queued, fun question isQueued => ?_, nothing, ?_⟩
  · obtain ⟨exchange, member, sameId⟩ : ∃ exchange ∈ desk.gate.pending,
        exchange.question.id = question.id := by
      rw [← reached] at isQueued ⊢
      exact pending_of_queued reading going isQueued
    obtain ⟨shown, isShown, rfl⟩ := List.mem_map.mp (informed.shown question isQueued)
    refine ⟨exchange, member, sameId, ?_⟩
    by_cases isDelivered : exchange.number ∈
        ((Gate.new settings).deliveries course).map Letter.number
    · exact Or.inl isDelivered
    · have unposted := mt (delivered_of_posted mailed orderly informed.readable nothing member)
        isDelivered
      have atMost : shown.number ≤ exchange.number :=
        Gate.number_le_of_delivered (isGate ▸ member) isShown sameId.symm
      have different : shown.number ≠ exchange.number :=
        fun same => isDelivered (same ▸ List.mem_map_of_mem isShown)
      exact Or.inr ⟨unposted, shown, isShown, rfl, Nat.lt_of_le_of_ne atMost different⟩
  · rw [← reached]
    exact poll_poll earlier reading going

/-! ### An id that is used again -/

/-- A question is shown and cancelled; another takes the slot, and the first is asked again. -/
def askingAgainInLine : List Move :=
  asking 0 (.cancellable 0) (.plain "Q-1" "Which store?") ++ [.poll] ++ givingUp 0 0 ++
    asking 1 .background (.plain "Q-2" "Which name?") ++
    asking 2 .background (.plain "Q-1" "Which store?")

/-- Polling again changes nothing then. -/
theorem poll_aligns_asked_again :
    (opened.run (askingAgainInLine ++ [.poll])).poll =
      (opened.run (askingAgainInLine ++ [.poll]), false) := by
  have aligned := poll_aligns { capacity := 1, defaultTimeout := none } []
    (fun _ member => absurd member List.not_mem_nil) id 120 (by decide) askingAgainInLine rfl rfl
    (by decide)
  exact aligned.settled

/-- The question that was cancelled is still queued, though the exchange that is pending under its
id has not been read. -/
theorem poll_keeps_withdrawn :
    (opened.run (askingAgainInLine ++ [.poll])).shell.quitting = false ∧
      (opened.run (askingAgainInLine ++ [.poll])).shell.questions.map Question.id =
        ["Q-1", "Q-2"] ∧
      ((opened.run (askingAgainInLine ++ [.poll])).gate.pending.filter fun exchange =>
        exchange.number ∈ ((Gate.new { capacity := 1, defaultTimeout := none }).deliveries
          (opened.gateCourse [] (askingAgainInLine ++ [.poll]))).map Letter.number).map
            (·.question.id) = ["Q-2"] := by
  refine ⟨by decide, by decide, by decide⟩

end Desk

end OperatorDesk
