/-
This file says how a turn can end an ask. It ends with the answer that was delivered, because the
gate is closed or cannot be read any more, because the id is taken, or because the context has
ended; in the last case the gate is open and no answer was delivered.
-/

import OperatorDesk.Proofs.Gate.Destination

namespace OperatorDesk

namespace Context

variable {context : Context} {used : List Token} {now served : Nat} {ending : Ending}

/-- The reason is good: the token was used, or it was not and the deadline has been reached. -/
def EndedBy (context : Context) (used : List Token) (now : Nat) : Ending → Prop
  | .cancelled => ∃ token, context.token = some token ∧ token ∈ used
  | .expired => (∀ token, context.token = some token → token ∉ used) ∧
      ∃ deadline, context.deadline = some deadline ∧ deadline ≤ now

theorem isCancelled_eq_true_iff :
    context.isCancelled used = true ↔ ∃ token, context.token = some token ∧ token ∈ used := by
  simp [isCancelled, Option.any_eq_true]

theorem isExpired_eq_true_iff :
    context.isExpired now = true ↔
      ∃ deadline, context.deadline = some deadline ∧ deadline ≤ now := by
  simp [isExpired, Option.any_eq_true]

theorem endedBy_of_check (ended : context.check used now = some ending) :
    context.EndedBy used now ending := by
  unfold check at ended
  split at ended
  · next cancelled =>
    cases ended
    exact isCancelled_eq_true_iff.mp cancelled
  · next uncancelled =>
    split at ended
    · next expired =>
      cases ended
      refine ⟨fun token isToken isUsed => uncancelled ?_, isExpired_eq_true_iff.mp expired⟩
      exact isCancelled_eq_true_iff.mpr ⟨token, isToken, isUsed⟩
    · cases ended

/-- What is heard of a context is true of it, since timers are not served early. -/
theorem endedBy_of_signal (past : served ≤ now)
    (heard : context.signal used served = some ending) : context.EndedBy used now ending := by
  unfold signal at heard
  rcases Option.or_eq_some_iff.mp heard with cancelled | ⟨uncancelled, expired⟩
  · unfold cancelSignal at cancelled
    split at cancelled
    · next token isToken =>
      split at cancelled
      · next isUsed =>
        cases cancelled
        exact ⟨token, isToken, isUsed⟩
      · cases cancelled
    · cases cancelled
  · unfold timerSignal at expired
    split at expired
    · next deadline isDeadline =>
      split at expired
      · next reached =>
        cases expired
        refine ⟨fun token isToken isUsed => ?_, deadline, isDeadline, Nat.le_trans reached past⟩
        simp [cancelSignal, isToken, isUsed] at uncancelled
      · cases expired
    · cases expired

theorem token_orTimeout (context : Context) (now : Nat) (timeout : Option Nat) :
    (context.orTimeout now timeout).token = context.token := by
  cases timeout with
  | none => rfl
  | some timeout =>
    simp only [orTimeout]
    split <;> rfl

/-- The default timeout counts from the given time where there is no deadline. -/
theorem deadline_orTimeout (context : Context) (now : Nat) (timeout : Option Nat) :
    (context.orTimeout now timeout).deadline =
      context.deadline.or (timeout.map fun timeout => now + timeout) := by
  cases timeout with
  | none => exact (Option.or_none).symm
  | some timeout =>
    cases deadline : context.deadline <;> simp [orTimeout, Context.timeout, deadline]

end Context

namespace Gate

variable {gate : Gate} {id : AskerId} {asker : Asker}

theorem reply_prepared (gate : Gate) (asker : Asker) :
    (gate.prepared asker).reply = asker.reply := by
  unfold prepared
  split <;> rfl

theorem question_prepared (gate : Gate) (asker : Asker) :
    (gate.prepared asker).question = asker.question := by
  unfold prepared
  split <;> rfl

/-- How the turn of an ask that has not ended can end it. -/
inductive Verdict (gate : Gate) (asker : Asker) : Outcome → Prop where
  | answered (answer : Answer) (reply : asker.reply = some answer) :
    Verdict gate asker (.answered answer)
  | closed : Verdict gate asker (.failed .closed)
  | duplicate : Verdict gate asker (.failed (.duplicate asker.question.id))
  | withdrawn (ending : Ending) (silent : asker.reply = none) (stillOpen : gate.closed = false)
    (entered : asker.stage = .unheard → gate.admits asker)
    (ended : (gate.prepared asker).context.EndedBy gate.used gate.now ending) :
    Verdict gate asker (.failed (failureOf asker.question.id ending))

section Verdicts

variable (entered : asker.stage = .unheard → gate.admits asker)

include entered

theorem verdict_conclusion {ending : Ending}
    (ended : (gate.prepared asker).context.EndedBy gate.used gate.now ending) :
    gate.Verdict asker (gate.conclusion asker ending) := by
  unfold conclusion
  split
  · next answer reply => exact .answered answer reply
  · next silent =>
    split
    · exact .closed
    · next isOpen => exact .withdrawn ending silent (Bool.eq_false_iff.mpr isOpen) entered ended

theorem verdict_afterListening (past : gate.served ≤ gate.now) {number : Nat} {outcome : Outcome}
    (ends : gate.afterListening (gate.prepared asker) number = .ended outcome) :
    gate.Verdict asker outcome := by
  unfold afterListening at ends
  rw [gate.reply_prepared asker] at ends
  split at ends
  · next answer reply =>
    cases ends
    exact .answered answer reply
  · next silent =>
    split at ends
    · cases ends
      exact .closed
    · next isOpen =>
      split at ends
      · next ending heard =>
        cases ends
        rw [gate.question_prepared asker]
        exact .withdrawn ending silent (Bool.eq_false_iff.mpr isOpen) entered
          (Context.endedBy_of_signal past heard)
      · cases ends

theorem verdict_afterGrant (past : gate.served ≤ gate.now) {number : Nat} {outcome : Outcome}
    (ends : gate.afterGrant (gate.prepared asker) number = .ended outcome) :
    gate.Verdict asker outcome := by
  unfold afterGrant at ends
  split at ends
  · cases ends
    exact .closed
  · exact verdict_afterListening entered past ends

end Verdicts

/-- What an asker hears of its context while it waits ends the ask so. -/
theorem verdict_of_signal (past : gate.served ≤ gate.now) (heard : asker.stage ≠ .unheard)
    {ending : Ending} (signal : asker.context.signal gate.used gate.served = some ending) :
    gate.Verdict asker (gate.conclusion asker ending) := by
  refine verdict_conclusion (fun unheard => absurd unheard heard) ?_
  rw [gate.prepared_of_heard heard]
  exact Context.endedBy_of_signal past signal

/-- A turn ends an ask in one of these ways. -/
theorem verdict_destination (past : gate.served ≤ gate.now)
    (unended : ∀ outcome, asker.stage ≠ .ended outcome) {outcome : Outcome}
    (ends : gate.destination asker = .ended outcome) : gate.Verdict asker outcome := by
  unfold destination at ends
  cases stage : asker.stage with
  | unheard =>
    simp only [stage] at ends
    split at ends
    · cases ends
      exact .closed
    split at ends
    · cases ends
      exact .duplicate
    next isOpen absent =>
    have admitted : gate.admits asker :=
      ⟨stage, Bool.eq_false_iff.mpr isOpen, Bool.eq_false_iff.mpr absent⟩
    have prepared : gate.prepared asker = gate.bounded asker := if_pos admitted
    rw [← prepared] at ends
    split at ends
    · next ending ended =>
      cases ends
      exact verdict_conclusion (fun _ => admitted) (Context.endedBy_of_check ended)
    · split at ends
      · exact verdict_afterGrant (fun _ => admitted) past ends
      · cases ends
  | inLine number =>
    have heard : asker.stage ≠ .unheard := by rw [stage]; exact Stage.noConfusion
    simp only [stage] at ends
    split at ends
    · next signal =>
      cases ends
      exact verdict_of_signal past heard signal
    · split at ends
      · cases ends
        exact .closed
      · cases ends
  | granted number =>
    have heard : asker.stage ≠ .unheard := by rw [stage]; exact Stage.noConfusion
    simp only [stage] at ends
    split at ends
    · next signal =>
      cases ends
      exact verdict_of_signal past heard signal
    · split at ends
      · cases ends
        exact .closed
      · rw [← gate.prepared_of_heard heard] at ends
        exact verdict_afterGrant (fun unheard => absurd unheard heard) past ends
  | listening number =>
    have heard : asker.stage ≠ .unheard := by rw [stage]; exact Stage.noConfusion
    simp only [stage] at ends
    rw [← gate.prepared_of_heard heard] at ends
    exact verdict_afterListening (fun unheard => absurd unheard heard) past ends
  | ended before => exact absurd stage (unended before)

end Gate

end OperatorDesk
