/-
This file shows what a desk that has the reading side knows of its gate, at any time between its
polls. Whatever is queued was read, under ids that are all different, and no question that was read
is missing from the queue while its exchange is pending. A desk whose operator has quit is at a
closed gate.
-/

import OperatorDesk.Proofs.Desk.Course

namespace OperatorDesk

namespace Gate

variable {gate : Gate}

/-- The reader stays unless it drops the reading side. -/
theorem Orderly.seat_step (orderly : gate.Orderly []) (readable : gate.seat ≠ .gone) {move : Move}
    (stays : move ≠ .dropSeat) : (gate.step move).seat ≠ .gone := by
  have touched : ∀ {later : Gate} {busy : List AskerId}, gate.Touches later busy →
      later.seat ≠ .gone := by
    intro later busy touches
    rw [show later.seat = gate.seat from congrArg Surroundings.seat touches.surroundings]
    exact readable
  obtain ⟨first, drained, next, streamed⟩ := touches_reading gate
  cases move with
  | poll id =>
    rcases poll_cases gate id with ⟨asker, -, -, touches⟩ | ⟨-, touches⟩
    · rw [show (gate.step (.poll id)).seat = (gate.enroll id asker).seat from
        congrArg Surroundings.seat touches.surroundings]
      exact readable
    · exact touched touches
  | drop id => exact touched (touches_drop gate id)
  | submit answer =>
    rw [Gate.step]
    rcases orderly.refused_or_taken answer with ⟨_, same⟩ | ⟨exchange, -, -, same⟩
    · rw [same]
      exact readable
    · obtain ⟨_, _, _, _, frame⟩ := answered_frame gate exchange answer
      rw [same, frame]
      exact readable
  | takeSeat =>
    rw [Gate.step, Gate.takeSeat]
    split
    · exact Seat.noConfusion
    · exact readable
  | dropSeat => exact absurd rfl stays
  | tryNext => exact touched first
  | drain => exact touched drained
  | pollNext => exact touched next
  | pollStream => exact touched streamed
  | shutdown =>
    obtain ⟨_, _, _, _, _, -, same⟩ := shutdown_frame gate
    rw [Gate.step, same]
    exact readable
  | _ => exact readable

theorem Orderly.seat_run (orderly : gate.Orderly []) (readable : gate.seat ≠ .gone)
    (moves : List Move) (stays : ∀ move ∈ moves, move ≠ .dropSeat) :
    (gate.run moves).seat ≠ .gone := by
  refine run_invariant (fun moves later => (∀ move ∈ moves, move ≠ .dropSeat) →
    later.seat ≠ .gone) gate (fun _ => readable) ?_ moves stays
  intro moves move before stays
  have earlier := before fun other member => stays other (List.mem_append_left _ member)
  exact (orderly.run moves).1.seat_step earlier
    (stays move (List.mem_append_right _ (List.mem_singleton_self move)))

end Gate

namespace Desk

variable {Picture : Type} {desk : Desk Picture} {delivered : List Letter}

/-- What the desk knows of what was delivered to it. -/
structure Informed (desk : Desk Picture) (delivered : List Letter) : Prop where
  reads : desk.reads = true
  readable : desk.gate.seat ≠ .gone
  distinct : (desk.shell.questions.map Question.id).Nodup
  shown : ∀ question ∈ desk.shell.questions, question ∈ delivered.map Letter.question
  queued : ∀ exchange ∈ desk.gate.pending, exchange.number ∈ delivered.map Letter.number →
    exchange.question.id ∈ desk.shell.questions.map Question.id
  closed : desk.shell.quitting = true → desk.gate.closed = true

/-! ### One move -/

/-- A report takes nothing out of the mailbox. -/
theorem Dispatch.elsewhere {later : Desk Picture} {moves : List Gate.Move}
    (dispatch : Dispatch desk later moves) : ∀ move ∈ moves, move.isReading = false := by
  cases dispatch <;> simp [Gate.Move.isReading]

theorem ne_dropSeat_of_elsewhere {moves : List Gate.Move}
    (elsewhere : ∀ move ∈ moves, move.isReading = false) : ∀ move ∈ moves, move ≠ .dropSeat := by
  rintro move member rfl
  cases elsewhere _ member

theorem Informed.unchanged (informed : desk.Informed delivered) {later : Desk Picture}
    (gate : later.gate = desk.gate) (reads : later.reads = desk.reads)
    (queue : later.shell.queue = desk.shell.queue) : later.Informed delivered := by
  have questions : later.shell.questions = desk.shell.questions := congrArg Prod.fst queue
  have quitting : later.shell.quitting = desk.shell.quitting := congrArg Prod.snd queue
  refine ⟨reads.trans informed.reads, ?_, ?_, ?_, ?_, ?_⟩
  · rw [gate]
    exact informed.readable
  · rw [questions]
    exact informed.distinct
  · rw [questions]
    exact informed.shown
  · rw [gate, questions]
    exact informed.queued
  · rw [gate, quitting]
    exact informed.closed

section Later

variable (informed : desk.Informed delivered) (orderly : desk.gate.Orderly [])
  {later : Desk Picture} (moves : List Gate.Move) (gate : later.gate = desk.gate.run moves)
  (stays : ∀ move ∈ moves, move ≠ .dropSeat) (reads : later.reads = desk.reads)

include informed orderly gate stays reads

/-- What is left to be shown is what depends on the queue. -/
theorem Informed.of_queue {now : List Letter}
    (distinct : (later.shell.questions.map Question.id).Nodup)
    (shown : ∀ question ∈ later.shell.questions, question ∈ now.map Letter.question)
    (queued : ∀ exchange ∈ later.gate.pending, exchange.number ∈ now.map Letter.number →
      exchange.question.id ∈ later.shell.questions.map Question.id)
    (closes : later.shell.quitting = true → desk.shell.quitting = true ∨ later.gate.closed = true) :
    later.Informed now where
  reads := reads.trans informed.reads
  readable := by
    rw [gate]
    exact orderly.seat_run informed.readable moves stays
  distinct := distinct
  shown := shown
  queued := queued
  closed := by
    intro quit
    rcases closes quit with before | isClosed
    · rw [gate]
      exact (orderly.closed_for_good (informed.closed before) moves).1
    · exact isClosed

/-- An id leaves the queue when nothing is pending under it any more. -/
theorem Informed.filtered (id : String)
    (queue : later.shell.queue = (desk.shell.questions.filter (·.id != id), desk.shell.quitting))
    (fewer : later.gate.pending ⊆ desk.gate.pending)
    (absent : ∀ exchange ∈ later.gate.pending, exchange.question.id ≠ id) :
    later.Informed delivered := by
  have questions : later.shell.questions = desk.shell.questions.filter (·.id != id) :=
    congrArg Prod.fst queue
  refine informed.of_queue orderly moves gate stays reads ?_ ?_ ?_
    fun quit => Or.inl ((congrArg Prod.snd queue).symm.trans quit)
  · rw [questions]
    exact informed.distinct.sublist (List.filter_sublist.map _)
  · intro question member
    rw [questions] at member
    exact informed.shown question (List.mem_filter.mp member).1
  · intro exchange member isDelivered
    obtain ⟨question, isQueued, sameId⟩ :=
      List.mem_map.mp (informed.queued exchange (fewer member) isDelivered)
    rw [questions, ← sameId]
    refine List.mem_map_of_mem (List.mem_filter.mpr ⟨isQueued, ?_⟩)
    rw [sameId]
    exact bne_iff_ne.mpr (absent exchange member)

end Later

theorem Informed.outside (informed : desk.Informed delivered) (orderly : desk.gate.Orderly [])
    {posted : List Letter} (mailed : desk.gate.Mailed posted delivered) {move : Gate.Move}
    (elsewhere : move.isReading = false) :
    (desk.step (.outside move elsewhere)).Informed delivered := by
  have stays : ∀ other ∈ [move], other ≠ .dropSeat :=
    ne_dropSeat_of_elsewhere fun other member => by rwa [List.mem_singleton.mp member]
  have gate : (desk.step (.outside move elsewhere)).gate = desk.gate.run [move] := rfl
  refine informed.of_queue orderly _ gate stays rfl informed.distinct informed.shown ?_ Or.inl
  intro exchange member isDelivered
  rcases orderly.pending_or_new move exchange member with ⟨earlier, wasPending, same⟩ | isNew
  · have number : earlier.unslotted.number = exchange.unslotted.number := by rw [same]
    have question : earlier.unslotted.question = exchange.unslotted.question := by rw [same]
    have isQueued := informed.queued earlier wasPending (by
      rw [show earlier.number = exchange.number from number]
      exact isDelivered)
    rwa [show earlier.question = exchange.question from question] at isQueued
  · exact absurd ((mailed.delivered_sublist.map _).subset isDelivered)
      (mailed.not_mem_of_registered isNew)

theorem Informed.report (informed : desk.Informed delivered) (orderly : desk.gate.Orderly [])
    {later : Desk Picture} {moves : List Gate.Move} (dispatch : Dispatch desk later moves)
    (gate : later.gate = desk.gate.run moves) (reads : later.reads = desk.reads) :
    later.Informed delivered := by
  have stays := ne_dropSeat_of_elsewhere dispatch.elsewhere
  cases dispatch with
  | quiet sameGate queue => exact informed.unchanged sameGate reads queue
  | refused answer sameGate queue => exact informed.unchanged sameGate reads queue
  | quits isShut queue =>
    have shut := orderly.shutdown
    have isClosed : desk.gate.shutdown.closed = true := by
      obtain ⟨_, _, _, _, _, -, same⟩ := Gate.shutdown_frame desk.gate
      rw [same]
    have questions : later.shell.questions = desk.shell.questions := congrArg Prod.fst queue
    refine informed.of_queue orderly _ gate stays reads ?_ ?_ ?_ fun _ => Or.inr ?_
    · rw [questions]
      exact informed.distinct
    · rw [questions]
      exact informed.shown
    · intro exchange member
      rw [isShut, (shut.closing.empty isClosed).1] at member
      cases member
    · rw [isShut]
      exact isClosed
  | missed answer absent sameGate queue =>
    refine informed.filtered orderly _ gate stays reads answer.questionId queue
      (by simp only [sameGate, List.Subset.refl]) ?_
    rw [sameGate]
    exact Gate.find?_eq_none_iff.mp absent
  | accepted question answer exchange onTop addressed found isAnswered queue =>
    obtain ⟨_, _, _, _, frame⟩ := Gate.answered_frame desk.gate exchange answer
    have pending : later.gate.pending =
        (desk.gate.removePending exchange.question.id).pending := by rw [isAnswered, frame]
    refine informed.filtered orderly _ gate stays reads answer.questionId queue ?_ ?_
    · rw [pending]
      exact List.filter_subset_self _
    · rw [pending, ← Gate.id_of_find? found]
      exact fun other member => (Gate.mem_removePending.mp member).2

/-- What is pending has entered the queue once it was delivered. -/
theorem Informed.entered (informed : desk.Informed delivered) (orderly : desk.gate.Orderly [])
    {exchange : Exchange} (isPending : exchange ∈ desk.gate.pending)
    (isDelivered : exchange.number ∈ (delivered ++ desk.gate.unread).map Letter.number) :
    exchange.question.id ∈ ((desk.gate.unread.map Letter.question).foldl Shell.entering
      desk.shell.questions).map Question.id := by
  rw [List.map_append, List.mem_append] at isDelivered
  rw [Shell.ids_foldl_entering]
  refine isDelivered.imp (informed.queued exchange isPending) fun isNew => ?_
  obtain ⟨letter, isUnread, sameNumber⟩ := List.mem_map.mp isNew
  obtain ⟨-, own, isOwn, ownNumber, sameQuestion⟩ := orderly.mem_unread_iff.mp isUnread
  have equal := orderly.registry.eq_of_number isOwn isPending (ownNumber.trans sameNumber)
  rw [← equal, sameQuestion]
  exact List.mem_map_of_mem (List.mem_map_of_mem isUnread)

theorem Informed.poll (informed : desk.Informed delivered) (orderly : desk.gate.Orderly []) :
    desk.poll.1.Informed (delivered ++ desk.gate.unread) := by
  have isGate := gate_poll informed.reads
  have stays : ∀ move ∈ [Gate.Move.drain], move ≠ .dropSeat := by simp
  have asked := orderly.returned_eq .drain
  have reads := (orderly.reads_step .drain rfl Gate.Move.noConfusion).2
  cases going : desk.shell.quitting with
  | true =>
    have shell := shell_poll_of_quitting going
    have ended := orderly.over (informed.closed going)
    refine informed.of_queue orderly [.drain] isGate stays rfl ?_ ?_ ?_
      fun _ => Or.inl going
    · rw [shell]
      exact informed.distinct
    · intro question member
      rw [shell] at member
      rw [List.map_append]
      exact List.mem_append_left _ (informed.shown question member)
    · intro exchange member
      rw [isGate, ended.drain, ended.pending] at member
      cases member
  | false =>
    have queue := queue_poll informed.reads going
    have questions := congrArg Prod.fst queue
    simp only [Shell.queue] at questions
    rw [show desk.gate.drain.2 = desk.gate.unread.map Letter.question from asked] at questions
    refine informed.of_queue orderly [.drain] isGate stays rfl ?_ ?_ ?_ ?_
    · rw [questions]
      exact (Shell.nodup_foldl_entering _ informed.distinct).sublist (List.filter_sublist.map _)
    · intro question member
      rw [questions] at member
      rw [List.map_append, List.mem_append]
      exact (Shell.mem_foldl_entering (List.mem_filter.mp member).1).imp_left
        (informed.shown question)
    · intro exchange member isDelivered
      rw [isGate] at member
      have isMapped := member
      rw [show desk.gate.drain.1.pending = _ from reads.pending] at isMapped
      obtain ⟨original, wasPending, rfl⟩ := List.mem_map.mp isMapped
      rw [Exchange.number_readWith] at isDelivered
      have entered := informed.entered orderly wasPending isDelivered
      obtain ⟨question, isEntered, sameId⟩ := List.mem_map.mp entered
      rw [questions, Exchange.question_readWith, ← sameId]
      refine List.mem_map_of_mem (List.mem_filter.mpr ⟨isEntered, ?_⟩)
      refine List.any_eq_true.mpr ⟨_, member, beq_iff_eq.mpr ?_⟩
      rw [Exchange.question_readWith, sameId]
    · intro quit
      have goes : desk.poll.1.shell.quitting = false := congrArg Prod.snd queue
      rw [goes] at quit
      cases quit

/-! ### Whole runs -/

theorem Informed.step (informed : desk.Informed delivered) {settings : GateSettings}
    {moves : List Gate.Move} (isGate : desk.gate = (Gate.new settings).run moves)
    (isDelivered : delivered = (Gate.new settings).deliveries moves) (move : Move) :
    (desk.step move).Informed
      ((Gate.new settings).deliveries (moves ++ desk.gateMoves move)) := by
  have orderly : desk.gate.Orderly [] := isGate ▸ Gate.orderly_run settings moves
  have mailed := Gate.mailed_run settings moves
  rw [← isGate, ← isDelivered] at mailed
  rw [Gate.deliveries_append, ← isGate, ← isDelivered]
  cases move with
  | outside move elsewhere =>
    have nothing : desk.gate.deliveries [move] = [] :=
      desk.gate.deliveries_eq_nil fun other member => by rwa [List.mem_singleton.mp member]
    rw [gateMoves, nothing, List.append_nil]
    exact informed.outside orderly mailed elsewhere
  | poll =>
    have drained : desk.gate.deliveries [.drain] = desk.gate.unread := List.append_nil _
    rw [gateMoves, if_pos informed.reads, drained]
    exact informed.poll orderly
  | report report =>
    have dispatch := dispatch_report orderly report
    rw [desk.gate.deliveries_eq_nil dispatch.elsewhere, List.append_nil]
    exact informed.report orderly dispatch (gate_step desk _) (reads_step desk _)

/-- A new desk that got the reading side, at a gate at which nobody has read. -/
structure Opening (settings : GateSettings) (before : List Gate.Move) (desk : Desk Picture) :
    Prop where
  unread : ∀ move ∈ before, move.isReading = false
  gate : desk.gate = (Gate.new settings).run (before ++ [.takeSeat])
  queue : desk.shell.queue = ([], false)
  reads : desk.reads = true
  taken : desk.gate.seat = .taken

theorem opening_new {settings : GateSettings} {before : List Gate.Move}
    (unread : ∀ move ∈ before, move.isReading = false) (embed : Dashboard → Picture)
    (compactBelow : Nat)
    (reads : (Desk.new embed ((Gate.new settings).run before) compactBelow).reads = true) :
    Opening settings before (Desk.new embed ((Gate.new settings).run before) compactBelow) where
  unread := unread
  gate := by
    rw [Gate.run_concat]
    rfl
  queue := rfl
  reads := reads
  taken := by
    have isFree : ((Gate.new settings).run before).seat = .untaken := by
      by_contra taken
      simp only [Desk.new, withShell, Gate.takeSeat, if_neg taken] at reads
      cases reads
    simp only [Desk.new, withShell, Gate.takeSeat, if_pos isFree]

theorem Opening.informed {settings : GateSettings} {before : List Gate.Move}
    (opening : Opening settings before desk) :
    desk.Informed ((Gate.new settings).deliveries (before ++ [.takeSeat])) := by
  have nothing : (Gate.new settings).deliveries (before ++ [.takeSeat]) = [] := by
    refine Gate.deliveries_eq_nil _ fun move member => ?_
    rcases List.mem_append.mp member with early | last
    · exact opening.unread move early
    · rw [List.mem_singleton.mp last]
      rfl
  have questions : desk.shell.questions = [] := congrArg Prod.fst opening.queue
  rw [nothing]
  refine ⟨opening.reads, ?_, ?_, ?_, fun _ _ member => absurd member List.not_mem_nil, ?_⟩
  · rw [opening.taken]
    exact Seat.noConfusion
  · rw [questions]
    exact List.nodup_nil
  · rw [questions]
    exact fun _ member => absurd member List.not_mem_nil
  · intro quit
    rw [show desk.shell.quitting = false from congrArg Prod.snd opening.queue] at quit
    cases quit

/-- What happens at the gate up to the end of a run of the desk. -/
def gateCourse (desk : Desk Picture) (before : List Gate.Move) (moves : List Move) :
    List Gate.Move :=
  before ++ [.takeSeat] ++ desk.course moves

theorem Opening.gate_run {settings : GateSettings} {before : List Gate.Move}
    (opening : Opening settings before desk) (moves : List Move) :
    (desk.run moves).gate = (Gate.new settings).run (desk.gateCourse before moves) := by
  rw [gateCourse, Gate.run_append, ← opening.gate]
  exact desk.gate_run moves

/-- Between its polls the desk knows what was delivered to it. -/
theorem Opening.informed_run {settings : GateSettings} {before : List Gate.Move}
    (opening : Opening settings before desk) (moves : List Move) :
    (desk.run moves).Informed
      ((Gate.new settings).deliveries (desk.gateCourse before moves)) := by
  induction moves using List.reverseRecOn with
  | nil =>
    rw [gateCourse, course, List.append_nil]
    exact opening.informed
  | append_singleton moves move inductionHypothesis =>
    rw [run_concat, gateCourse, course_concat, ← List.append_assoc]
    exact inductionHypothesis.step (opening.gate_run moves) rfl move

end Desk

end OperatorDesk
