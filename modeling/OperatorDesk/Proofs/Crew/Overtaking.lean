/-
This file says when a question overtakes another at a gate whose crew takes turns in line. Whoever
is handed a slot gets in line for the turn in which it uses the slot. Those who are woken at the
same time and get in ahead of it have nothing to post that was registered later. So only somebody
who stood in line for a turn before the slot was handed over can post a later question first.
-/

import OperatorDesk.Proofs.Crew.Attendance
import OperatorDesk.Proofs.Gate.Overtaking

namespace OperatorDesk.Crew

variable {crew later : Crew} {deed : Deed} {moves : List Gate.Move} {id : AskerId}
  {number : Nat} {turn : Turn} {line turns : List Turn}

/-! ### Those ahead in the line for turns -/

/-- Those who stand ahead of an asker. -/
def ahead (line : List Turn) (id : AskerId) : List Turn :=
  line.takeWhile (· ≠ .asker id)

theorem ahead_cons {head : Turn} (other : head ≠ .asker id) (rest : List Turn) :
    ahead (head :: rest) id = head :: ahead rest id :=
  List.takeWhile_cons_of_pos (by simpa using other)

theorem ahead_append (line turns : List Turn) (id : AskerId) :
    ahead (line ++ turns) id =
      if .asker id ∈ line then ahead line id else line ++ ahead turns id := by
  induction line with
  | nil => rfl
  | cons head rest inductionHypothesis =>
    by_cases same : head = .asker id
    · rw [same, if_pos List.mem_cons_self]
      simp [ahead]
    · rw [List.cons_append, ahead_cons same, ahead_cons same, inductionHypothesis]
      simp only [List.mem_cons, Ne.symm same, false_or]
      split <;> rfl

theorem mem_ahead_lineUp (isAhead : turn ∈ ahead (lineUp line turns) id) :
    turn ∈ ahead (line ++ turns) id := by
  induction turns generalizing line with
  | nil =>
    rw [List.append_nil]
    exact isAhead
  | cons first rest inductionHypothesis =>
    rw [lineUp_cons] at isAhead
    have before := inductionHypothesis isAhead
    split at before
    · next stands =>
      rw [ahead_append] at before ⊢
      split
      · next isMember =>
        rw [if_pos isMember] at before
        exact before
      · next absent =>
        rw [if_neg absent] at before
        rw [ahead_cons fun same => absent (same ▸ stands)]
        exact (List.mem_append.mp before).elim (List.mem_append_left _)
          fun isAhead => List.mem_append_right _ (List.mem_cons_of_mem _ isAhead)
    · rw [List.append_assoc] at before
      exact before

/-- Nobody gets ahead of those who stand in line. -/
theorem mem_ahead_of_mem (stands : .asker id ∈ line)
    (isAhead : turn ∈ ahead (lineUp line turns) id) : turn ∈ ahead line id := by
  have before := mem_ahead_lineUp isAhead
  rwa [ahead_append, if_pos stands] at before

theorem mem_or_mem_ahead (isAhead : turn ∈ ahead (lineUp line turns) id) :
    turn ∈ line ∨ turn ∈ ahead turns id := by
  have before := mem_ahead_lineUp isAhead
  rw [ahead_append] at before
  split at before
  · exact Or.inl (List.takeWhile_subset _ before)
  · exact List.mem_append.mp before

/-! ### Those who post nothing later -/

/-- In this turn no question is posted that was registered under a greater number. -/
def PostsEarlier (gate : Gate) (number : Nat) : Turn → Prop
  | .asker id => gate.Precedes id number
  | .reader => True
  | _ => False

theorem PostsEarlier.run {gate : Gate} (posts : PostsEarlier gate number turn)
    (orderly : gate.Orderly []) (moves : List Gate.Move) :
    PostsEarlier (gate.run moves) number turn := by
  cases turn with
  | asker id => exact Gate.Precedes.run posts orderly moves
  | reader => trivial
  | _ => cases posts

theorem postsEarlier_of_woken {gate : Gate} {woken : List Wake}
    (precedes : ∀ other, .asker other ∈ woken.takeWhile (· ≠ .asker id) →
      gate.Precedes other number)
    (isAhead : turn ∈ ahead (woken.map turnOf) id) : PostsEarlier gate number turn := by
  have same : (fun turn : Turn => decide (turn ≠ .asker id)) ∘ turnOf = (· ≠ Wake.asker id) := by
    funext wake
    cases wake <;> simp [turnOf]
  rw [ahead, List.takeWhile_map, same] at isAhead
  obtain ⟨wake, isWoken, rfl⟩ := List.mem_map.mp isAhead
  cases wake with
  | asker other => exact precedes other isWoken
  | reader => trivial

/-! ### One deed -/

/-- What a deed does to those ahead of an asker that has a slot in hand afterwards. -/
inductive Wait (crew later : Crew) (id : AskerId) (number : Nat) : Prop where
  /-- It had the slot before, and nobody has got ahead of it. -/
  | goesOn (granted : crew.gate.stage? id = some (.granted number))
    (behind : ∀ turn ∈ ahead later.ready id, turn ∈ ahead crew.ready id)
  /-- It has been handed the slot, and those ahead of it stood in line before. -/
  | begins (waits : crew.gate.stage? id = some (.inLine number))
    (behind : ∀ turn ∈ ahead later.ready id,
      turn ∈ crew.ready ∨ PostsEarlier later.gate number turn)

theorem wait_of_granted (attends : crew.Attends) (queues : crew.Queues line id)
    (ready : later.ready = lineUp line turns)
    (granted : crew.gate.stage? id = some (.granted number)) : crew.Wait later id number := by
  have stands := queues.stays (attends id (Gate.restless_of_granted granted))
  refine .goesOn granted fun turn isAhead => ?_
  rw [ready] at isAhead
  have isAheadInLine := mem_ahead_of_mem stands isAhead
  rcases queues with rfl | ⟨head, first, other⟩
  · exact isAheadInLine
  · rw [first, ahead_cons other]
    exact List.mem_cons_of_mem head isAheadInLine

theorem Gathers.wait (attends : crew.Attends) (queues : crew.Queues line id)
    (gathers : Gathers crew.gate line moves later) (orderly : (crew.gate.run moves).Orderly [])
    (origin : crew.gate.stage? id = some (.granted number) ∨
      crew.gate.stage? id = some (.inLine number) ∧
        ∀ other, .asker other ∈ (crew.gate.run moves).woken.takeWhile (· ≠ .asker id) →
          (crew.gate.run moves).Precedes other number) : crew.Wait later id number := by
  rcases origin with granted | ⟨waits, precedes⟩
  · exact wait_of_granted attends queues gathers.ready_eq granted
  · refine .begins waits fun turn isAhead => ?_
    rw [gathers.ready_eq] at isAhead
    refine (mem_or_mem_ahead isAhead).imp queues.mem_ready fun isWoken => ?_
    rw [gathers.gate_eq]
    exact (postsEarlier_of_woken precedes isWoken).run orderly [.takeWakes]

/-- Whoever gets ahead of an asker with a slot in hand stood in line before the slot was handed
over, or has nothing to post that was registered later. -/
theorem Effect.wait (effect : crew.Effect later deed moves) (attends : crew.Attends)
    (orderly : crew.gate.Orderly []) (byNumber : crew.gate.ByNumber)
    (untold : crew.gate.woken = [])
    (granted : later.gate.stage? id = some (.granted number)) : crew.Wait later id number := by
  have moved : ∀ move, (crew.gate.run [move]).Orderly [] :=
    fun move => (orderly.run [move]).1
  cases effect with
  | starts _ turns gate ready =>
    rw [gate] at granted
    exact wait_of_granted attends (Or.inl rfl) ready granted
  | idles turn rest first other turns gate ready =>
    rw [gate] at granted
    exact wait_of_granted attends (Or.inr ⟨turn, first, other id⟩) ready granted
  | asks context question gate ready =>
    rw [gate] at granted
    exact wait_of_granted attends (Or.inl rfl) ready
      ((Gate.stage?_ask_cases granted).resolve_right Stage.noConfusion)
  | operates move outside gathers =>
    rw [gathers.gate_eq] at granted
    exact gathers.wait attends (Or.inl rfl) (moved move)
      (orderly.granted_or_handed byNumber untold move granted)
  | serves turns gate ready due =>
    rw [gate] at granted
    exact wait_of_granted attends (Or.inl rfl) ready granted
  | goesOn asker rest first move own gathers =>
    rw [gathers.gate_eq] at granted
    have different := ne_of_restless_of_own orderly own (Gate.restless_of_granted granted)
    exact gathers.wait attends (Or.inr ⟨_, first, different⟩) (moved move)
      (orderly.granted_or_handed byNumber untold move granted)
  | reads kind rest first asleep gathers =>
    rw [gathers.gate_eq] at granted
    exact gathers.wait attends (Or.inr ⟨_, first, Turn.noConfusion⟩) (orderly.run _).1
      (orderly.granted_or_handed byNumber untold kind.attempt granted)
  | arrives index rest first context question gathers =>
    rw [gathers.gate_eq] at granted
    have asking := (orderly.step (.ask context question)).1
    have origin := asking.granted_or_handed (byNumber.step orderly _) untold
      (.poll crew.gate.askers.length) granted
    refine gathers.wait attends (Or.inr ⟨_, first, Turn.noConfusion⟩) (orderly.run _).1 ?_
    refine origin.imp (fun before => ?_) (And.imp_left fun before => ?_)
    · exact (Gate.stage?_ask_cases before).resolve_right Stage.noConfusion
    · exact (Gate.stage?_ask_cases before).resolve_right Stage.noConfusion

/-! ### Turns in which a letter is posted -/

/-- The turn in which a letter is posted after these moves. Nobody has been handed a slot by them,
and the letter has the number of the asker or one that is new. -/
structure PostingTurn (crew : Crew) (early : List Gate.Move) (letter : Letter) (turn : Turn) :
    Prop where
  kept (id : AskerId) (number : Nat) :
    (crew.gate.run early).stage? id = some (.granted number) ↔
      crew.gate.stage? id = some (.granted number)
  own (id : AskerId) (number : Nat) (isOwn : turn = .asker id)
    (granted : crew.gate.stage? id = some (.granted number)) : letter.number = number
  number_lt (number : Nat) (earlier : PostsEarlier crew.gate number turn) :
    letter.number < number

theorem postingTurn_asker (orderly : crew.gate.Orderly []) {letter : Letter}
    (posts : crew.gate.posted? (.poll id) = some letter) :
    crew.PostingTurn [] letter (.asker id) where
  kept _ _ := Iff.rfl
  own _ _ isOwn granted := by
    obtain rfl := Turn.asker.inj isOwn
    exact orderly.number_of_own granted posts
  number_lt _ precedes := orderly.number_lt_of_precedes precedes posts

theorem postingTurn_agent (crew : Crew) (context : Context) (question : Question)
    (letter : Letter) (index : Nat) :
    crew.PostingTurn [.ask context question] letter (.agent index) where
  kept id number := by
    refine ⟨fun granted => (Gate.stage?_ask_cases granted).resolve_right Stage.noConfusion,
      fun granted => ?_⟩
    obtain ⟨asker, known, stage⟩ := Option.map_eq_some_iff.mp granted
    exact Option.map_eq_some_iff.mpr
      ⟨asker, Gate.askers_ask_of_known known context question, stage⟩
  own _ _ isOwn := Turn.noConfusion isOwn
  number_lt _ := False.elim

/-- Where an asker has its turn in a deed, it has it before those who were woken get in line. -/
theorem split_of_poll (made : List Gate.Move) {early late : List Gate.Move} {poster : AskerId}
    (isMove : made ++ [.takeWakes] = early ++ .poll poster :: late) :
    ∃ others, made = early ++ .poll poster :: others := by
  cases late using List.reverseRecOn with
  | nil => cases (List.append_inj' isMove rfl).2
  | append_singleton others last =>
    rw [← List.cons_append, ← List.append_assoc] at isMove
    exact ⟨others, (List.append_inj' isMove rfl).1⟩

/-- A letter is posted in the turn of the first in line. -/
theorem Effect.turn_of_posted? (effect : crew.Effect later deed moves)
    (orderly : crew.gate.Orderly []) {early late : List Gate.Move} {move : Gate.Move}
    (isMove : moves = early ++ move :: late) {letter : Letter}
    (posts : (crew.gate.run early).posted? move = some letter) :
    deed = .turn ∧ ∃ turn rest, crew.ready = turn :: rest ∧
      crew.PostingTurn early letter turn := by
  obtain ⟨-, poster, -, rfl, -⟩ := (orderly.run early).1.cause_of_posted? posts
  have isMade : .poll poster ∈ moves :=
    isMove ▸ List.mem_append_right early List.mem_cons_self
  cases effect with
  | starts => cases isMade
  | idles => cases isMade
  | asks => simp at isMade
  | operates move outside gathers =>
    obtain rfl : .poll poster = move := by simpa using isMade
    cases outside
  | serves => simp at isMade
  | goesOn id rest first move own gathers =>
    obtain ⟨others, isFirst⟩ := split_of_poll [move] isMove
    obtain ⟨rfl, rfl⟩ : early = [] ∧ move = .poll poster := by
      cases early with
      | nil => exact ⟨rfl, (List.cons.inj isFirst).1⟩
      | cons head tail => simp at isFirst
    obtain rfl : poster = id := own.elim Gate.Move.poll.inj fun isDrop => by cases isDrop
    exact ⟨rfl, _, rest, first, postingTurn_asker orderly posts⟩
  | reads kind rest first asleep gathers =>
    cases kind <;> simp [ReaderKind.attempt] at isMade
  | arrives index rest first context question gathers =>
    obtain ⟨others, isFirst⟩ := split_of_poll [_, _] isMove
    obtain rfl : early = [.ask context question] := by
      cases early with
      | nil => cases (List.cons.inj isFirst).1
      | cons head tail =>
        obtain ⟨rfl, isSecond⟩ := List.cons.inj isFirst
        cases tail with
        | nil => rfl
        | cons _ tail => simp at isSecond
    exact ⟨rfl, _, rest, first, postingTurn_agent crew context question letter index⟩

/-! ### Runs -/

section Runs

variable {settings : GateSettings} {deeds : List Deed} {first second : Letter}

/-- Whoever has a slot in hand was handed it in one of the deeds. Those ahead of it stood in line
before that deed, or have nothing to post that was registered later. -/
theorem handed_run
    (granted : ((start settings).run deeds).gate.stage? id = some (.granted number)) :
    ∃ early handing between, deeds = early ++ handing :: between ∧
      ((start settings).run early).gate.stage? id = some (.inLine number) ∧
      ((start settings).run (early ++ [handing])).gate.stage? id =
        some (.granted number) ∧
      ∀ turn ∈ ahead ((start settings).run deeds).ready id,
        turn ∈ ((start settings).run early).ready ∨
          PostsEarlier ((start settings).run deeds).gate number turn := by
  induction deeds using List.reverseRecOn with
  | nil => cases granted
  | append_singleton deeds deed inductionHypothesis =>
    have orderly := orderly_run settings deeds
    have untold := untold_run_start settings deeds
    have byNumber : ((start settings).run deeds).gate.ByNumber := by
      rw [gate_run_start]
      exact Gate.byNumber_run settings _
    have effect := effect_step untold deed
    rw [run_concat] at granted ⊢
    cases effect.wait (attends_run settings deeds) orderly byNumber untold granted with
    | goesOn before behind =>
      obtain ⟨early, handing, between, rfl, waits, handed, kept⟩ := inductionHypothesis before
      refine ⟨early, handing, between ++ [deed], by rw [List.append_assoc]; rfl, waits, handed,
        fun turn isAhead => (kept turn (behind turn isAhead)).imp_right fun posts => ?_⟩
      rw [effect.gate_eq]
      exact posts.run orderly _
    | begins waits behind =>
      exact ⟨deeds, deed, [], rfl, waits, by rw [run_concat]; exact granted, behind⟩

/-- One letter overtakes another in a run of a crew. While the asker of the first letter has its
slot in hand, the second letter is posted in a turn for which its owner stood in line before the
slot was handed over. -/
def Overtakes (crew : Crew) (deeds : List Deed) (first second : Letter) : Prop :=
  ∃ early handing between late turn rest, ∃ id : AskerId,
    deeds = (early ++ handing :: between) ++ .turn :: late ∧
      (crew.run early).gate.stage? id = some (.inLine first.number) ∧
      (crew.run (early ++ [handing])).gate.stage? id = some (.granted first.number) ∧
      (crew.run (early ++ handing :: between)).gate.stage? id = some (.granted first.number) ∧
      (crew.run (early ++ handing :: between)).ready = turn :: rest ∧
      turn ∈ (crew.run early).ready ∧
      second ∈ (crew.run (early ++ handing :: between)).gate.postings
        ((crew.run (early ++ handing :: between)).gateMoves .turn)

/-- What overtakes in the course of a run overtakes in the run, and the other way round. -/
theorem overtakes_iff (earlier : first.number < second.number) :
    (start settings).Overtakes deeds first second ↔
      (Gate.new settings).Overtakes ((start settings).course deeds) first second := by
  constructor
  · rintro ⟨early, handing, between, late, turn, rest, id, rfl, -, -, granted, -, -, posted⟩
    have orderly := orderly_run settings (early ++ handing :: between)
    have effect := effect_step (untold_run_start settings (early ++ handing :: between)) .turn
    obtain ⟨moves, move, others, isMove, posts⟩ := Gate.mem_observed _ posted
    obtain ⟨-, _, _, -, posting⟩ := effect.turn_of_posted? orderly isMove posts
    have reached : (Gate.new settings).run
        ((start settings).course (early ++ handing :: between) ++ moves) =
          ((start settings).run (early ++ handing :: between)).gate.run moves := by
      rw [Gate.run_append, gate_run_start]
    refine ⟨(start settings).course (early ++ handing :: between) ++ moves, move,
      others ++ (((start settings).run (early ++ handing :: between)).step .turn).course late,
      ?_, ?_, id, ?_⟩
    · rw [course_append, course, isMove]
      simp
    · rw [reached]
      exact posts
    · rw [reached]
      exact (posting.kept id first.number).mpr granted
  · rintro ⟨early, move, late, isCourse, posts, id, granted⟩
    obtain ⟨before, deed, after, moves, others, rfl, isMove, rfl⟩ := course_split isCourse
    have orderly := orderly_run settings before
    have effect := effect_step (untold_run_start settings before) deed
    rw [Gate.run_append, ← gate_run_start] at posts granted
    obtain ⟨rfl, turn, rest, isReady, posting⟩ := effect.turn_of_posted? orderly isMove posts
    rw [posting.kept] at granted
    obtain ⟨early, handing, between, rfl, waits, handed, behind⟩ := handed_run granted
    have other : turn ≠ .asker id := fun same =>
      Nat.ne_of_gt earlier (posting.own id first.number same granted)
    have isAhead : turn ∈ ahead ((start settings).run (early ++ handing :: between)).ready id := by
      rw [isReady, ahead_cons other]
      exact List.mem_cons_self
    refine ⟨early, handing, between, after, turn, rest, id, rfl, waits, handed, granted, isReady,
      (behind turn isAhead).resolve_right fun postsEarlier => ?_, ?_⟩
    · have less := posting.number_lt first.number postsEarlier
      omega
    · rw [isMove, Gate.postings_split posts]
      exact List.mem_append_right _ List.mem_cons_self

/-- The questions reach the reader in the order in which they were registered, unless one is
overtaken; and at a gate with a single slot none is. What is pending is listed in the order of
registration at any time. -/
theorem yields_in_order_iff (settings : GateSettings) (deeds : List Deed) :
    (∀ first ∈ (Gate.new settings).deliveries ((start settings).course deeds),
      ∀ second ∈ (Gate.new settings).deliveries ((start settings).course deeds),
        first.number < second.number →
          ([first, second].Sublist
              ((Gate.new settings).deliveries ((start settings).course deeds)) ↔
            ¬(start settings).Overtakes deeds first second) ∧
          (settings.capacity ≤ 1 →
            [first, second].Sublist
              ((Gate.new settings).deliveries ((start settings).course deeds)))) ∧
      ((start settings).run deeds).gate.pendingQuestions =
          ((start settings).run deeds).gate.pending.map Exchange.question ∧
        ((start settings).run deeds).gate.pending.Pairwise fun left right =>
          left.number < right.number := by
  have orderly := orderly_run settings deeds
  refine ⟨fun first isFirst second isSecond earlier => ?_, orderly.pendingQuestions_eq,
    orderly.registry.increasing⟩
  have inOrder := Gate.delivered_in_order_iff isFirst isSecond earlier
  refine ⟨?_, fun single => inOrder.mpr (Gate.not_overtakes_of_single single earlier)⟩
  rw [overtakes_iff earlier]
  exact inOrder

end Runs

/-- Two slots, and no timeout. -/
def roomy : GateSettings :=
  { capacity := 2, defaultTimeout := none }

/-- Two questions hold both slots and a third one waits for a slot. A fourth ask is started, and
before its first turn the reader frees both slots: one is handed to the third asker, which gets in
line for its turn behind the fourth. -/
def passing : List Deed :=
  [.operate .takeSeat rfl, .ask .background (.plain "Q-1" "Which store?"),
    .ask .background (.plain "Q-2" "Which name?"), .ask .background (.plain "Q-3" "Which port?"),
    .turn, .turn, .turn, .ask .background (.plain "Q-4" "Which host?"), .operate .drain rfl,
    .turn, .turn, .operate .drain rfl]

/-- The fourth question overtakes the third, and the second does not overtake the first. -/
theorem yields_in_order_iff_passing :
    (start roomy).Overtakes passing ⟨3, .plain "Q-3" "Which port?"⟩
        ⟨4, .plain "Q-4" "Which host?"⟩ ∧
      ¬(start roomy).Overtakes passing ⟨1, .plain "Q-1" "Which store?"⟩
        ⟨2, .plain "Q-2" "Which name?"⟩ := by
  have yields := (yields_in_order_iff roomy passing).1
  have inOrder := (yields ⟨1, .plain "Q-1" "Which store?"⟩ (by decide)
    ⟨2, .plain "Q-2" "Which name?"⟩ (by decide) (by decide)).1
  have outOfOrder := (yields ⟨3, .plain "Q-3" "Which port?"⟩ (by decide)
    ⟨4, .plain "Q-4" "Which host?"⟩ (by decide) (by decide)).1
  refine ⟨not_not.mp fun keepsPace => ?_, inOrder.mp (by decide)⟩
  exact absurd (outOfOrder.mpr keepsPace) (by decide)

/-- Not all questions reach the reader in the order in which they were registered. -/
theorem not_always_in_order :
    ¬∀ (settings : GateSettings) (deeds : List Deed),
      ∀ first ∈ (Gate.new settings).deliveries ((start settings).course deeds),
        ∀ second ∈ (Gate.new settings).deliveries ((start settings).course deeds),
          first.number < second.number →
            [first, second].Sublist
              ((Gate.new settings).deliveries ((start settings).course deeds)) := by
  intro always
  have inOrder := always roomy passing ⟨3, .plain "Q-3" "Which port?"⟩ (by decide)
    ⟨4, .plain "Q-4" "Which host?"⟩ (by decide) (by decide)
  exact absurd inOrder (by decide)

end OperatorDesk.Crew
