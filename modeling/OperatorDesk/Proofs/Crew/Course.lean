/-
This file says what a deed of a crew does at the gate and in the line for turns. Nobody stands in
the line twice, and nobody gets ahead of those who stand there: whoever is started or woken gets in
at the end, in the order in which the gate names those whom it has woken.
-/

import OperatorDesk.Crew.Run
import OperatorDesk.Proofs.Gate.Moves

namespace OperatorDesk.Crew

variable {crew : Crew} {deed : Deed} {turn : Turn} {line turns : List Turn}

/-! ### The line for turns -/

/-- A line once others have got in, unless they stand there already. -/
def lineUp (line turns : List Turn) : List Turn :=
  turns.foldl (fun line turn => if turn ∈ line then line else line ++ [turn]) line

theorem lineUp_cons (line : List Turn) (turn : Turn) (turns : List Turn) :
    lineUp line (turn :: turns) =
      lineUp (if turn ∈ line then line else line ++ [turn]) turns :=
  rfl

theorem mem_lineUp : turn ∈ lineUp line turns ↔ turn ∈ line ∨ turn ∈ turns := by
  induction turns generalizing line with
  | nil => simp [lineUp]
  | cons first rest inductionHypothesis =>
    rw [lineUp_cons, inductionHypothesis, List.mem_cons, ← or_assoc]
    refine or_congr_left ?_
    split
    · next stands => exact ⟨Or.inl, fun isMember => isMember.elim id fun same => same ▸ stands⟩
    · rw [List.mem_append, List.mem_singleton]

theorem enqueue_eq (crew : Crew) (turn : Turn) :
    crew.enqueue turn = { crew with ready := lineUp crew.ready [turn] } := by
  unfold enqueue lineUp
  simp only [List.foldl_cons, List.foldl_nil]
  split <;> rfl

theorem foldl_enqueue (crew : Crew) (turns : List Turn) :
    turns.foldl enqueue crew = { crew with ready := lineUp crew.ready turns } := by
  induction turns generalizing crew with
  | nil => rfl
  | cons turn rest inductionHypothesis =>
    rw [List.foldl_cons, inductionHypothesis, enqueue_eq]
    rfl

theorem collect_eq (crew : Crew) :
    crew.collect =
      { crew with
        gate := { crew.gate with woken := [] }
        ready := lineUp crew.ready (crew.gate.woken.map turnOf) } :=
  foldl_enqueue _ _

theorem withGate_eq (crew : Crew) (gate : Gate) :
    crew.withGate gate =
      { crew with
        gate := { gate with woken := [] }
        ready := lineUp crew.ready (gate.woken.map turnOf) } :=
  collect_eq _

/-- Those who stand in line while a deed is done: the first may have its turn. -/
def Queues (crew : Crew) (line : List Turn) (id : AskerId) : Prop :=
  line = crew.ready ∨ ∃ head, crew.ready = head :: line ∧ head ≠ .asker id

/-- Whose turn it is not stays in line. -/
theorem Queues.stays {id : AskerId} (queues : crew.Queues line id)
    (stands : .asker id ∈ crew.ready) : .asker id ∈ line := by
  rcases queues with rfl | ⟨head, first, other⟩
  · exact stands
  · rw [first] at stands
    exact (List.mem_cons.mp stands).resolve_left (Ne.symm other)

theorem Queues.mem_ready {id : AskerId} (queues : crew.Queues line id) (stands : turn ∈ line) :
    turn ∈ crew.ready := by
  rcases queues with rfl | ⟨head, first, -⟩
  · exact stands
  · rw [first]
    exact List.mem_cons_of_mem head stands

/-! ### Deeds -/

/-- Moves are made at the gate, and then those whom they have woken get in line. -/
structure Gathers (gate : Gate) (waiting : List Turn) (moves : List Gate.Move) (later : Crew) :
    Prop where
  gate_eq : later.gate = { gate.run moves with woken := [] }
  ready_eq : later.ready = lineUp waiting ((gate.run moves).woken.map turnOf)

/-- What a deed can do, and its moves at the gate. -/
inductive Effect (crew later : Crew) : Deed → List Gate.Move → Prop where
  /-- Nothing happens at the gate, and nobody has a turn. -/
  | starts (deed : Deed) (turns : List Turn) (gate : later.gate = crew.gate)
    (ready : later.ready = lineUp crew.ready turns) : Effect crew later deed []
  /-- Somebody else than an asker has a turn, in which nothing happens at the gate. -/
  | idles (turn : Turn) (rest : List Turn) (first : crew.ready = turn :: rest)
    (other : ∀ id, turn ≠ .asker id) (turns : List Turn) (gate : later.gate = crew.gate)
    (ready : later.ready = lineUp rest turns) : Effect crew later .turn []
  | asks (context : Context) (question : Question)
    (gate : later.gate = { crew.gate.ask context question with woken := [] })
    (ready : later.ready = lineUp crew.ready
      (crew.gate.woken.map turnOf ++ [.asker crew.gate.askers.length])) :
    Effect crew later (.ask context question) [.ask context question, .takeWakes]
  | operates (move : Gate.Move) (outside : move.isOutside = true)
    (gathers : Gathers crew.gate crew.ready [move] later) :
    Effect crew later (.operate move outside) [move, .takeWakes]
  | serves (turns : List Turn) (gate : later.gate = { crew.gate.serveTimers with woken := [] })
    (ready : later.ready = lineUp crew.ready turns)
    (due : ∀ timer ∈ crew.gate.dueTimers, .asker timer.2 ∈ turns) :
    Effect crew later .serveTimers [.serveTimers, .takeWakes]
  | goesOn (id : AskerId) (rest : List Turn) (first : crew.ready = .asker id :: rest)
    (move : Gate.Move) (own : move = .poll id ∨ move = .drop id)
    (gathers : Gathers crew.gate rest [move] later) : Effect crew later .turn [move, .takeWakes]
  | reads (kind : ReaderKind) (rest : List Turn) (first : crew.ready = .reader :: rest)
    (asleep : Bool) (gathers : Gathers crew.gate rest [kind.attempt, .park asleep] later) :
    Effect crew later .turn [kind.attempt, .park asleep, .takeWakes]
  | arrives (index : Nat) (rest : List Turn) (first : crew.ready = .agent index :: rest)
    (context : Context) (question : Question)
    (gathers : Gathers crew.gate rest
      [.ask context question, .poll crew.gate.askers.length] later) :
    Effect crew later .turn
      [.ask context question, .poll crew.gate.askers.length, .takeWakes]

theorem gathers_withGate (crew : Crew) (moves : List Gate.Move) :
    Gathers crew.gate crew.ready moves (crew.withGate (crew.gate.run moves)) := by
  rw [withGate_eq]
  exact ⟨rfl, rfl⟩

theorem effect_serveTimers (untold : crew.gate.woken = []) :
    crew.Effect crew.serveTimers .serveTimers [.serveTimers, .takeWakes] := by
  unfold serveTimers
  simp only
  rw [← List.foldl_map, foldl_enqueue]
  refine .serves _ ?_ rfl fun timer isDue => ?_
  · rw [Gate.serveTimers, untold]
  · refine List.mem_map.mpr ⟨(timer.1, .asker timer.2), List.mem_mergeSort.mpr ?_, rfl⟩
    exact List.mem_append_left _ (List.mem_map.mpr ⟨timer, isDue, rfl⟩)

section Turns

variable {rest : List Turn}

theorem effect_runReader (first : crew.ready = .reader :: rest) :
    crew.Effect ({ crew with ready := rest }.runReader) .turn (crew.movesOfTurn .reader) := by
  have other : ∀ id, Turn.reader ≠ .asker id := fun _ => Turn.noConfusion
  unfold runReader movesOfTurn goesOnWaiting
  cases crew.reader with
  | none => exact .idles _ rest first other [] rfl rfl
  | some kind =>
    have attempted : ∀ asleep, crew.gate.run [kind.attempt, .park asleep] =
        { (read crew.gate kind).1 with parked := asleep } := by
      intro asleep
      cases kind <;> rfl
    have acts : ∀ asleep reader readings, crew.Effect
        ({ crew with ready := rest, reader, readings }.withGate
          { (read crew.gate kind).1 with parked := asleep })
        .turn [kind.attempt, .park asleep, .takeWakes] := by
      intro asleep reader readings
      rw [← attempted]
      exact .reads kind rest first asleep
        (gathers_withGate { crew with ready := rest, reader, readings } _)
    simp only
    rcases found : read crew.gate kind with ⟨gate, reading⟩
    rw [found] at acts
    cases reading with
    | pending => exact acts true _ _
    | _ => exact acts false none _

theorem effect_runAgent {index : Nat} (first : crew.ready = .agent index :: rest) :
    crew.Effect ({ crew with ready := rest }.runAgent index) .turn
      (crew.movesOfTurn (.agent index)) := by
  have other : ∀ id, Turn.agent index ≠ .asker id := fun _ => Turn.noConfusion
  unfold runAgent movesOfTurn
  simp only
  cases crew.agents[index]? with
  | none => exact .idles _ rest first other [] rfl rfl
  | some agent =>
    simp only
    cases agent.stage with
    | unheard => exact .idles _ rest first other [] rfl rfl
    | asleep wakesAt =>
      simp only
      split
      · refine .arrives index rest first _ _ ?_
        rw [arrive, withGate_eq]
        exact ⟨rfl, rfl⟩
      · exact .idles _ rest first other [] rfl rfl
    | asking => exact .idles _ rest first other [] rfl rfl

theorem effect_takeTurn (crew : Crew) :
    crew.Effect crew.takeTurn .turn (crew.gateMoves .turn) := by
  unfold takeTurn gateMoves
  cases first : crew.ready with
  | nil => exact .starts .turn [] rfl rfl
  | cons turn rest =>
    cases turn with
    | asker id =>
      simp only [runTurn, runAsker, movesOfTurn]
      split
      · exact .goesOn id rest first _ (Or.inr rfl)
          (gathers_withGate { crew with ready := rest } [.drop id])
      · exact .goesOn id rest first _ (Or.inl rfl)
          (gathers_withGate { crew with ready := rest } [.poll id])
    | reader => exact effect_runReader first
    | demonstration =>
      simp only [runTurn, runDemonstration]
      rw [← List.foldl_map, foldl_enqueue]
      exact .idles _ rest first (fun _ => Turn.noConfusion) _ rfl rfl
    | agent index => exact effect_runAgent first

end Turns

/-- What a deed does. -/
theorem effect_step (untold : crew.gate.woken = []) (deed : Deed) :
    crew.Effect (crew.step deed) deed (crew.gateMoves deed) := by
  cases deed with
  | ask context question =>
    refine .asks context question ?_ ?_
    · rw [step, ask, enqueue_eq, withGate_eq]
    · rw [step, ask, enqueue_eq, withGate_eq, lineUp, lineUp, lineUp, List.foldl_append]
      rfl
  | drop id =>
    rw [step, drop]
    split
    · exact .starts (.drop id) [] rfl rfl
    · exact .starts (.drop id) [] rfl rfl
    · rw [enqueue_eq]
      exact .starts (.drop id) [.asker id] rfl rfl
  | demonstrate =>
    rw [step, demonstrate, enqueue_eq]
    exact .starts .demonstrate [.demonstration] rfl rfl
  | park kind =>
    rw [step, park, enqueue_eq]
    exact .starts (.park kind) [.reader] rfl rfl
  | operate move outside => exact .operates move outside (gathers_withGate crew [move])
  | serveTimers => exact effect_serveTimers untold
  | turn => exact effect_takeTurn crew

/-! ### Runs -/

theorem Effect.gate_eq {later : Crew} {moves : List Gate.Move}
    (effect : crew.Effect later deed moves) : later.gate = crew.gate.run moves := by
  cases effect with
  | starts _ _ gate => exact gate
  | idles _ _ _ _ _ gate => exact gate
  | asks _ _ gate => exact gate
  | operates _ _ gathers => exact gathers.gate_eq
  | serves _ gate => exact gate
  | goesOn _ _ _ _ _ gathers => exact gathers.gate_eq
  | reads _ _ _ _ gathers => exact gathers.gate_eq
  | arrives _ _ _ _ _ gathers => exact gathers.gate_eq

/-- After a deed nobody is left who was woken and did not get in line. -/
theorem Effect.untold {later : Crew} {moves : List Gate.Move}
    (effect : crew.Effect later deed moves) (untold : crew.gate.woken = []) :
    later.gate.woken = [] := by
  cases effect with
  | starts _ _ gate => rw [gate, untold]
  | idles _ _ _ _ _ gate => rw [gate, untold]
  | asks _ _ gate => rw [gate]
  | operates _ _ gathers => rw [gathers.gate_eq]
  | serves _ gate => rw [gate]
  | goesOn _ _ _ _ _ gathers => rw [gathers.gate_eq]
  | reads _ _ _ _ gathers => rw [gathers.gate_eq]
  | arrives _ _ _ _ _ gathers => rw [gathers.gate_eq]

theorem run_concat (crew : Crew) (deeds : List Deed) (deed : Deed) :
    crew.run (deeds ++ [deed]) = (crew.run deeds).step deed :=
  List.foldl_append

/-- The gate of a crew has come about by the course of the run. -/
theorem gate_run (untold : crew.gate.woken = []) (deeds : List Deed) :
    (crew.run deeds).gate = crew.gate.run (crew.course deeds) ∧
      (crew.run deeds).gate.woken = [] := by
  induction deeds generalizing crew with
  | nil => exact ⟨rfl, untold⟩
  | cons deed rest inductionHypothesis =>
    have effect := effect_step untold deed
    rw [course, Gate.run_append, ← effect.gate_eq]
    exact inductionHypothesis (effect.untold untold)

theorem gate_run_start (settings : GateSettings) (deeds : List Deed) :
    ((start settings).run deeds).gate =
      (Gate.new settings).run ((start settings).course deeds) :=
  (gate_run rfl deeds).1

theorem untold_run_start (settings : GateSettings) (deeds : List Deed) :
    ((start settings).run deeds).gate.woken = [] :=
  (gate_run rfl deeds).2

theorem course_append (crew : Crew) (first second : List Deed) :
    crew.course (first ++ second) = crew.course first ++ (crew.run first).course second := by
  induction first generalizing crew with
  | nil => rfl
  | cons deed rest inductionHypothesis =>
    rw [List.cons_append, course, course, inductionHypothesis, List.append_assoc]
    rfl

/-- Every move of the course is made in one of the deeds. -/
theorem course_split {deeds : List Deed} {early late : List Gate.Move} {move : Gate.Move}
    (isCourse : crew.course deeds = early ++ move :: late) :
    ∃ before deed after first last, deeds = before ++ deed :: after ∧
      (crew.run before).gateMoves deed = first ++ move :: last ∧
      early = crew.course before ++ first := by
  induction deeds generalizing crew early with
  | nil => exact absurd isCourse.symm (List.append_ne_nil_of_right_ne_nil _ (List.cons_ne_nil _ _))
  | cons deed rest inductionHypothesis =>
    have later : ∀ {between}, (crew.step deed).course rest = between ++ move :: late →
        early = crew.gateMoves deed ++ between →
          ∃ before current after first last, deed :: rest = before ++ current :: after ∧
            (crew.run before).gateMoves current = first ++ move :: last ∧
            early = crew.course before ++ first := by
      intro between isLater isEarly
      obtain ⟨before, current, after, first, last, rfl, isMove, rfl⟩ := inductionHypothesis isLater
      refine ⟨deed :: before, current, after, first, last, rfl, isMove, ?_⟩
      rw [isEarly, course, List.append_assoc]
    rcases List.append_eq_append_iff.mp isCourse with ⟨between, isEarly, isLater⟩ |
      ⟨between, isDeed, isLater⟩
    · exact later isLater isEarly
    · cases between with
      | nil =>
        rw [List.append_nil] at isDeed
        have isRest : (crew.step deed).course rest = [] ++ move :: late := isLater.symm
        exact later isRest (by rw [isDeed, List.append_nil])
      | cons head last =>
        obtain ⟨rfl, -⟩ := List.cons.inj isLater
        exact ⟨[], deed, rest, early, last, rfl, isDeed, rfl⟩

end OperatorDesk.Crew
