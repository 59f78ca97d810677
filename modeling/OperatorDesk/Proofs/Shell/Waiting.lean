/-
This file says which questions wait, and which of them is shown. The questions wait in the order in
which they were asked, each id once: what was asked joins at the end, an answer that was taken and
a question that was given up leave, and nothing else that is done to the shell matters. An overlay
is laid by one operation at most, on top of what the operation leaves. If it shows a question and
was not given by the owner, it shows the one that has waited longest, or one whose answer was
refused.
-/

import OperatorDesk.Proofs.Shell.Acting
import OperatorDesk.Proofs.Shell.Coherence
import OperatorDesk.Proofs.Shell.Fronting
import OperatorDesk.Proofs.Shell.Surfacing

namespace OperatorDesk.Shell

variable {Picture : Type} {shell later last : Shell Picture} {event : Event}

/-! ### The line of waiting questions -/

/-- The line after an event. -/
def lineAfter (line : List Question) : Event → List Question
  | .asked question =>
    if ∃ other ∈ line, other.id = question.id then line else line ++ [question]
  | .accepted id => line.eraseP (·.id == id)
  | .retracted id => line.eraseP (·.id == id)
  | _ => line

/-- The events among the operations that come before the operator has quit. -/
def heard (shell : Shell Picture) : List (Operation Picture) → List Event
  | [] => []
  | .update event :: rest =>
    if shell.quitting then shell.heard rest else event :: (shell.update event).1.heard rest
  | operation :: rest => (shell.perform operation).heard rest

/-- In a line without duplicates only one question has the id. -/
theorem filter_eq_eraseP {line : List Question} (distinct : (line.map Question.id).Nodup)
    (id : String) : line.filter (·.id != id) = line.eraseP (·.id == id) := by
  induction line with
  | nil => rfl
  | cons first rest inductionHypothesis =>
    rw [List.map_cons, List.nodup_cons] at distinct
    by_cases same : first.id = id
    · have gone : ∀ other ∈ rest, (other.id != id) = true := fun other member =>
        bne_iff_ne.mpr fun again =>
          distinct.1 (List.mem_map.mpr ⟨other, member, again.trans same.symm⟩)
      rw [List.filter_cons_of_neg (by simp [same]), List.eraseP_cons_of_pos (by simp [same]),
        List.filter_eq_self.mpr gone]
    · rw [List.filter_cons_of_pos (by simp [same]), List.eraseP_cons_of_neg (by simp [same]),
        inductionHypothesis distinct.2]

theorem questions_press (shell : Shell Picture) (key : Key) :
    (shell.press key).1.questions = shell.questions := by
  have presses := presses_press shell key
  generalize shell.press key = result at presses
  cases presses with
  | nothing _ later same => exact congrArg Prod.fst same
  | quit later _ done => exact congrArg Prod.fst done
  | answer _ question composer answer =>
    exact congrArg Prod.fst (queue_sendAnswer { shell with composer := some composer } answer)

theorem entering_eq (line : List Question) (question : Question) :
    entering line question = lineAfter line (.asked question) := by
  simp only [entering, lineAfter, List.any_eq_true, beq_iff_eq]

theorem questions_update (distinct : (shell.questions.map Question.id).Nodup)
    (going : shell.quitting = false) (event : Event) :
    (shell.update event).1.questions = lineAfter shell.questions event := by
  cases event with
  | key key =>
    rw [update_key going]
    exact questions_press shell key
  | interrupt =>
    rw [update_interrupt going]
    exact congrArg Prod.fst (queue_requestQuit shell)
  | resize width height =>
    rw [update_resize going]
    rfl
  | asked question =>
    rw [update_asked going, ← entering_eq]
    exact congrArg Prod.fst (queue_hearAsked shell question)
  | accepted id =>
    rw [update_accepted going]
    exact (congrArg Prod.fst (queue_hearAccepted shell id)).trans (filter_eq_eraseP distinct id)
  | rejected id reason =>
    rw [update_rejected going]
    exact congrArg Prod.fst (queue_hearRejected shell id reason)
  | retracted id =>
    rw [update_retracted going]
    exact (congrArg Prod.fst (queue_hearRetracted shell id)).trans (filter_eq_eraseP distinct id)

theorem questions_perform (shell : Shell Picture) {operation : Operation Picture}
    (noEvent : ∀ event, operation ≠ .update event) :
    (shell.perform operation).questions = shell.questions := by
  cases operation with
  | update event => exact absurd rfl (noEvent event)
  | register id view =>
    show (shell.register id view).questions = shell.questions
    unfold register
    split <;> rfl
  | pushView id => exact congrArg Prod.fst (queue_pushView shell id)
  | pushOverlay overlay => exact congrArg Prod.fst (queue_pushOverlay shell overlay)
  | cycleFocus forward => exact congrArg Prod.fst (queue_cycleFocus shell forward)
  | _ => rfl

/-- Whatever is done to a shell, those who wait are those in the line after the events heard. -/
theorem Coherent.questions_run {root : String} (coherent : Coherent root shell)
    (operations : List (Operation Picture)) : (shell.run operations).questions =
      (shell.heard operations).foldl lineAfter shell.questions := by
  induction operations generalizing shell with
  | nil => rfl
  | cons operation rest inductionHypothesis =>
    have later := inductionHypothesis (coherent.perform operation)
    cases operation with
    | update event =>
      cases going : shell.quitting with
      | true =>
        have same : shell.perform (.update event) = shell :=
          congrArg Prod.fst (update_of_quitting going event)
        rw [same] at later
        rw [Shell.run, List.foldl_cons, same, heard, if_pos going]
        exact later
      | false =>
        rw [heard, if_neg (Bool.eq_false_iff.mp going), List.foldl_cons,
          ← questions_update coherent.distinct going event]
        exact later
    | _ => exact later.trans (congrArg (List.foldl lineAfter · _) (questions_perform shell nofun))

/-! ### Laying an overlay -/

/-- At most one overlay is laid, on top of what is left of the stack, and it is one of these. -/
def Restacks (laid : Overlay → Prop) (shell later : Shell Picture) : Prop :=
  ∃ kept, kept <:+ shell.overlays ∧
    (later.overlays = kept ∨ ∃ overlay, laid overlay ∧ later.overlays = overlay :: kept)

/-- The overlay shows the question that has waited longest. -/
def IsFront (shell : Shell Picture) (overlay : Overlay) : Prop :=
  ∃ id, shell.FrontIs id ∧ overlay = .question id

/-- The overlay shows the question that has waited longest, or no question. -/
def IsFrontOrOther (shell : Shell Picture) (overlay : Overlay) : Prop :=
  shell.IsFront overlay ∨ overlay.kind ≠ Overlay.questionKind

section Restacking

variable {laid : Overlay → Prop}

theorem restacks_of_same (overlays : later.overlays = shell.overlays) :
    Restacks laid shell later :=
  ⟨shell.overlays, List.suffix_rfl, Or.inl overlays⟩

theorem Restacks.mono {also : Overlay → Prop} (restacks : Restacks laid shell later)
    (each : ∀ overlay, laid overlay → also overlay) : Restacks also shell later := by
  obtain ⟨kept, below, stack⟩ := restacks
  exact ⟨kept, below, stack.imp_right fun ⟨overlay, isLaid, stack⟩ =>
    ⟨overlay, each overlay isLaid, stack⟩⟩

/-- What is laid on part of the stack is laid on what is left of the whole. -/
theorem Restacks.of_suffix (restacks : Restacks laid shell last)
    (below : shell.overlays <:+ later.overlays) : Restacks laid later last := by
  obtain ⟨kept, under, stack⟩ := restacks
  exact ⟨kept, under.trans below, stack⟩

theorem restacks_pushOverlay {overlay : Overlay} (isLaid : laid overlay) :
    Restacks laid shell (shell.pushOverlay overlay) := by
  unfold pushOverlay
  split
  · exact restacks_of_same rfl
  · exact ⟨shell.overlays, List.suffix_rfl, Or.inr ⟨overlay, isLaid, rfl⟩⟩

theorem restacks_openQuestion {id : String} (isLaid : laid (.question id)) :
    Restacks laid shell (shell.openQuestion id) := by
  rw [openQuestion_eq]
  split
  · exact restacks_of_same rfl
  · exact ⟨shell.overlays, List.suffix_rfl, Or.inr ⟨_, isLaid, rfl⟩⟩

end Restacking

theorem restacks_openFront (shell : Shell Picture) :
    Restacks shell.IsFront shell shell.openFront := by
  unfold openFront
  split
  · exact restacks_of_same rfl
  · next next => exact restacks_openQuestion ⟨_, frontIs_of_questions next, rfl⟩

theorem restacks_surface (shell : Shell Picture) : Restacks shell.IsFront shell shell.surface := by
  unfold surface
  split
  · exact restacks_of_same rfl
  · exact restacks_openFront shell

theorem restacks_settle (shell : Shell Picture) : Restacks shell.IsFront shell shell.settle := by
  unfold settle
  simp only
  split
  · exact restacks_of_same rfl
  · have shown := restacks_surface { shell with overlays := shell.overlays.dropWhile shell.isStale }
    exact shown.of_suffix (List.dropWhile_suffix _)

/-- Once a question is in sight, or none waits, no other is shown. -/
theorem surface_surface (shell : Shell Picture) : shell.surface.surface = shell.surface := by
  by_cases hidden : shell.surface.showsQuestion = true
  · exact if_pos hidden
  · have nobody : shell.surface.questions = [] := by
      by_contra someWait
      exact not_hidden_surface shell ⟨someWait, Bool.eq_false_iff.mpr hidden⟩
    rw [surface, if_neg hidden, openFront, nobody]

/-- Settling first and then showing a question lays no second overlay. -/
theorem restacks_settle_surface (shell : Shell Picture) :
    Restacks shell.IsFront shell shell.settle.surface := by
  unfold settle
  simp only
  split
  · exact restacks_surface shell
  · have shown := restacks_surface { shell with overlays := shell.overlays.dropWhile shell.isStale }
    rw [surface_surface]
    exact shown.of_suffix (List.dropWhile_suffix _)

/-! ### Keys -/

theorem restacks_goBack (shell : Shell Picture) : Restacks shell.IsFront shell shell.goBack := by
  unfold goBack
  split
  · exact restacks_of_same rfl
  · exact (restacks_settle shell.popOverlay.1).of_suffix (List.tail_suffix _)

theorem restacks_goAhead (shell : Shell Picture) :
    Restacks shell.IsFront shell shell.goAhead.1 := by
  unfold goAhead
  split
  · split
    · exact ⟨shell.overlays.tail, List.tail_suffix _, Or.inl rfl⟩
    · exact (restacks_settle shell.popOverlay.1).of_suffix (List.tail_suffix _)
  · split
    · exact restacks_of_same (overlays_pushView shell _)
    · exact restacks_of_same rfl

theorem restacks_requestQuestion (shell : Shell Picture) :
    Restacks shell.IsFront shell shell.requestQuestion := by
  unfold requestQuestion
  split
  · exact restacks_of_same rfl
  · next next =>
    split
    · exact restacks_of_same rfl
    · exact restacks_openQuestion ⟨_, frontIs_of_questions next, rfl⟩

theorem restacks_requestHelp (shell : Shell Picture) :
    Restacks shell.IsFrontOrOther shell shell.requestHelp := by
  unfold requestHelp
  split
  · exact restacks_of_same rfl
  · exact restacks_pushOverlay (Or.inr (by decide))

theorem restacks_requestQuit (shell : Shell Picture) :
    Restacks shell.IsFrontOrOther shell shell.requestQuit := by
  unfold requestQuit
  split
  · exact restacks_of_same rfl
  · exact restacks_pushOverlay (Or.inr (by decide))

theorem restacks_cycleFocus {laid : Overlay → Prop} (shell : Shell Picture) (forward : Bool) :
    Restacks laid shell (shell.cycleFocus forward) := by
  unfold cycleFocus
  simp only
  split <;> exact restacks_of_same rfl

theorem restacks_command (shell : Shell Picture) (key : Key) :
    Restacks shell.IsFrontOrOther shell (shell.command key).1 := by
  have front : ∀ overlay, shell.IsFront overlay → shell.IsFrontOrOther overlay :=
    fun _ => Or.inl
  unfold command
  split
  · exact restacks_cycleFocus shell true
  · exact restacks_cycleFocus shell false
  · exact (restacks_goBack shell).mono front
  · exact (restacks_goAhead shell).mono front
  · split
    · exact restacks_requestHelp shell
    split
    · exact restacks_requestQuit shell
    split
    · exact (restacks_requestQuestion shell).mono front
    · exact restacks_of_same rfl
  · exact restacks_of_same rfl

theorem restacks_sendAnswer (shell : Shell Picture) (answer : Answer) :
    Restacks shell.IsFront shell (shell.sendAnswer answer).1 :=
  (restacks_settle shell.popOverlay.1).of_suffix (List.tail_suffix _)

theorem restacks_press (shell : Shell Picture) (key : Key) :
    Restacks shell.IsFrontOrOther shell (shell.press key).1 := by
  unfold press
  split
  · exact restacks_command shell key
  · simp only
    split
    · exact restacks_command { shell with composer := some _ } key
    · exact restacks_of_same rfl
    · exact restacks_of_same rfl
    · exact (restacks_sendAnswer { shell with composer := some _ } _).mono fun _ => Or.inl

/-! ### Operations -/

/-- The overlays that an operation can lay. -/
inductive Lays (later : Shell Picture) : Operation Picture → Overlay → Prop where
  /-- Overlays that show no question. -/
  | other (operation : Operation Picture) (overlay : Overlay)
    (noQuestion : overlay.kind ≠ Overlay.questionKind) : Lays later operation overlay
  /-- That of the question that has waited longest. -/
  | front (event : Event) (id : String) (notRefused : ∀ id reason, event ≠ .rejected id reason)
    (isFront : later.FrontIs id) : Lays later (.update event) (.question id)
  /-- That of the question whose answer was refused. -/
  | refused (id reason : String) (waits : later.isQueued id = true) :
    Lays later (.update (.rejected id reason)) (.question id)
  /-- What the owner lays. -/
  | given (overlay : Overlay) : Lays later (.pushOverlay overlay) overlay

/-- After news that refuse no answer the question that has waited longest is shown, if any is. -/
theorem Restacks.lays {before : Shell Picture}
    (restacks : Restacks before.IsFrontOrOther before later)
    (below : before.overlays <:+ shell.overlays) (questions : later.questions = before.questions)
    (notRefused : ∀ id reason, event ≠ .rejected id reason) :
    Restacks (Lays later (.update event)) shell later := by
  refine (restacks.of_suffix below).mono fun overlay isLaid => ?_
  rcases isLaid with ⟨id, front, rfl⟩ | noQuestion
  · exact .front event id notRefused (front.congr questions)
  · exact .other _ overlay noQuestion

/-- After a question was taken out the stack is settled, and a question is shown. -/
theorem restacks_removed {before : Shell Picture} (stack : before.overlays = shell.overlays)
    (notRefused : ∀ id reason, event ≠ .rejected id reason) :
    Restacks (Lays before.settle.surface (.update event)) shell before.settle.surface := by
  refine Restacks.lays ((restacks_settle_surface before).mono fun _ => Or.inl) ?_ ?_ notRefused
  · exact stack ▸ List.suffix_rfl
  · exact congrArg Prod.fst ((queue_surface before.settle).trans (queue_settle before))

theorem restacks_update (shell : Shell Picture) (event : Event) :
    Restacks (Lays (shell.update event).1 (.update event)) shell (shell.update event).1 := by
  cases going : shell.quitting with
  | true =>
    rw [update_of_quitting going]
    exact restacks_of_same rfl
  | false =>
    cases event with
    | key key =>
      rw [update_key going]
      exact (restacks_press shell key).lays List.suffix_rfl (questions_press shell key)
        fun _ _ => Event.noConfusion
    | interrupt =>
      rw [update_interrupt going]
      exact (restacks_requestQuit shell).lays List.suffix_rfl
        (congrArg Prod.fst (queue_requestQuit shell)) fun _ _ => Event.noConfusion
    | resize width height =>
      rw [update_resize going]
      exact restacks_of_same rfl
    | asked question =>
      rw [update_asked going, hearAsked]
      split
      · exact restacks_of_same rfl
      · exact ((restacks_surface (shell.enqueue question)).mono fun _ => Or.inl).lays
          List.suffix_rfl (congrArg Prod.fst (queue_surface (shell.enqueue question)))
          fun _ _ => Event.noConfusion
    | accepted id =>
      rw [update_accepted going]
      refine restacks_removed ?_ fun _ _ => Event.noConfusion
      split <;> rfl
    | rejected id reason =>
      rw [update_rejected going, hearRejected]
      split
      · next waits =>
        have stays : ((shell.blame id reason).openQuestion id).isQueued id = true := by
          rw [isQueued_congr (congrArg Prod.fst (queue_openQuestion _ id))]
          exact waits
        have opened : Restacks (Lays ((shell.blame id reason).openQuestion id)
            (.update (.rejected id reason))) (shell.blame id reason)
            ((shell.blame id reason).openQuestion id) :=
          restacks_openQuestion (.refused id reason stays)
        exact opened.of_suffix List.suffix_rfl
      · exact restacks_of_same rfl
    | retracted id =>
      rw [update_retracted going, hearRetracted]
      simp only
      split
      · exact restacks_removed rfl fun _ _ => Event.noConfusion
      · exact restacks_of_same rfl

theorem restacks_perform (shell : Shell Picture) (operation : Operation Picture) :
    Restacks (Lays (shell.perform operation) operation) shell (shell.perform operation) := by
  cases operation with
  | update event => exact restacks_update shell event
  | register id view =>
    refine restacks_of_same ?_
    show (shell.register id view).overlays = shell.overlays
    unfold register
    split <;> rfl
  | pushView id => exact restacks_of_same (overlays_pushView shell id)
  | pushOverlay overlay => exact restacks_pushOverlay (.given overlay)
  | popOverlay => exact ⟨shell.overlays.tail, List.tail_suffix _, Or.inl rfl⟩
  | cycleFocus forward => exact restacks_cycleFocus shell forward
  | _ => exact restacks_of_same rfl

theorem overlays_update_rejected (going : shell.quitting = false) {id : String}
    (waits : shell.isQueued id = true) (reason : String) :
    (shell.update (.rejected id reason)).1.overlays =
      if shell.hasOverlayFor id then shell.overlays else .question id :: shell.overlays := by
  have rejected : shell.hearRejected id reason = (shell.blame id reason).openQuestion id :=
    if_pos waits
  rw [update_rejected going, rejected, openQuestion_eq]
  cases has : shell.hasOverlayFor id with
  | true => rw [show (shell.blame id reason).hasOverlayFor id = true from has]; rfl
  | false => rw [show (shell.blame id reason).hasOverlayFor id = false from has]; rfl

/-- Whatever was done to a shell, the questions that wait are those in the line after the events it
has heard, each id once. And whatever is done to it next, one overlay is laid at most, on top of
what is left of the stack: that of the question that has waited longest, or of a refused answer's,
or what the owner lays, or one that shows no question. A refused answer's question has an overlay
then. -/
theorem waits_in_line (root : String) (operations : List (Operation Picture))
    {shell : Shell Picture} (reached : (start root).run operations = shell) :
    shell.questions = ((start root : Shell Picture).heard operations).foldl lineAfter [] ∧
      (shell.questions.map Question.id).Nodup ∧
      (∀ operation, Restacks (Lays (shell.perform operation) operation) shell
        (shell.perform operation)) ∧
      ∀ id reason, shell.quitting = false → shell.isQueued id = true →
        (shell.update (.rejected id reason)).1.overlays =
          if shell.hasOverlayFor id then shell.overlays else .question id :: shell.overlays := by
  subst reached
  refine ⟨(coherent_start root).questions_run operations, (coherent_run root operations).distinct,
    restacks_perform _, fun id reason going waits => overlays_update_rejected going waits reason⟩

/-- Two questions are asked, and then another one with the first id. -/
def queueing : List (Operation Unit) :=
  [.update (.asked (.plain "Q-1" "Which store?")), .update (.asked (.plain "Q-2" "Which name?")),
    .update (.asked (.plain "Q-1" "Which region?"))]

/-- The second question with the id does not join, and a refused answer to the other question puts
that one above the first. -/
theorem waits_in_line_refused :
    ((start "fleet").run queueing).questions =
        [.plain "Q-1" "Which store?", .plain "Q-2" "Which name?"] ∧
      (((start "fleet").run queueing).update (.rejected "Q-2" "too late")).1.overlays =
        [.question "Q-2", .question "Q-1"] := by
  obtain ⟨line, -, -, refused⟩ := waits_in_line "fleet" queueing rfl
  refine ⟨line.trans (by decide), ?_⟩
  exact (refused "Q-2" "too late" (by decide) (by decide)).trans (by decide)

end OperatorDesk.Shell
