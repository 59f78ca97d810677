/-
This file says what is replied to an answer, and when. An answer is turned away because nothing is
pending under its id or because it breaks the rules of the question that is, and then the gate is
left as it was; every other answer is taken. It never comes to an answer that finds an exchange and
nobody to hear it: an ask that ends takes its exchange along, so whoever has a pending exchange
still waits.
-/

import OperatorDesk.Proofs.Gate.Rest

namespace OperatorDesk.Gate

variable {gate : Gate}

/-- What is replied to an answer, going by the question that is pending under its id. -/
def replyTo (gate : Gate) (answer : Answer) : Except AskFailure Unit :=
  match gate.find? answer.questionId with
  | none => .error (.notFound answer.questionId)
  | some exchange =>
    match exchange.question.refusal? answer with
    | some refusal => .error (.refused refusal)
    | none => .ok ()

theorem Orderly.submit_eq_replyTo (orderly : gate.Orderly []) (answer : Answer) :
    (gate.submit answer).2 = gate.replyTo answer := by
  unfold replyTo
  rcases orderly.submit_cases answer with ⟨absent, same⟩ |
    ⟨exchange, refusal, found, refused, same⟩ | ⟨exchange, found, admissible, same⟩
  · rw [same, absent]
  · rw [same, found]
    simp only [refused]
  · rw [same, found]
    simp only [admissible]

/-- With distinct ids, what holds of the exchange under an id holds of the one that is found. -/
theorem DistinctIds.find?_iff (distinct : gate.DistinctIds) {id : String}
    {holds : Exchange → Prop} :
    (∃ exchange, gate.find? id = some exchange ∧ holds exchange) ↔
      ∃ exchange ∈ gate.pending, exchange.question.id = id ∧ holds exchange := by
  constructor
  · rintro ⟨exchange, found, isSo⟩
    exact ⟨exchange, mem_of_find? found, id_of_find? found, isSo⟩
  · rintro ⟨exchange, member, rfl, isSo⟩
    exact ⟨exchange, distinct.find?_of_mem member, isSo⟩

/-! ### Each reply has one reason -/

theorem replyTo_eq_notFound_iff (answer : Answer) :
    gate.replyTo answer = .error (.notFound answer.questionId) ↔
      ∀ exchange ∈ gate.pending, exchange.question.id ≠ answer.questionId := by
  rw [← find?_eq_none_iff, replyTo]
  cases gate.find? answer.questionId with
  | none => exact iff_of_true rfl rfl
  | some exchange => cases judged : exchange.question.refusal? answer <;> simp [judged]

theorem DistinctIds.replyTo_eq_refused_iff (distinct : gate.DistinctIds) (answer : Answer)
    (refusal : Refusal) :
    gate.replyTo answer = .error (.refused refusal) ↔
      ∃ exchange ∈ gate.pending, exchange.question.id = answer.questionId ∧
        exchange.question.refusal? answer = some refusal := by
  rw [← distinct.find?_iff, replyTo]
  cases gate.find? answer.questionId with
  | none => simp
  | some exchange => cases judged : exchange.question.refusal? answer <;> simp [judged]

theorem DistinctIds.replyTo_eq_ok_iff (distinct : gate.DistinctIds) (answer : Answer) :
    gate.replyTo answer = .ok () ↔
      ∃ exchange ∈ gate.pending, exchange.question.id = answer.questionId ∧
        exchange.question.refusal? answer = none := by
  rw [← distinct.find?_iff, replyTo]
  cases gate.find? answer.questionId with
  | none => simp
  | some exchange => cases judged : exchange.question.refusal? answer <;> simp [judged]

/-- An answer that is turned away was given for an id under which nothing is pending, or breaks the
question's rules. -/
theorem failure_of_replyTo {answer : Answer} {failure : AskFailure}
    (turnedAway : gate.replyTo answer = .error failure) :
    failure = .notFound answer.questionId ∨ ∃ refusal, failure = .refused refusal := by
  unfold replyTo at turnedAway
  split at turnedAway
  · cases turnedAway
    exact Or.inl rfl
  · split at turnedAway
    · cases turnedAway
      exact Or.inr ⟨_, rfl⟩
    · cases turnedAway

/-- An answer that is turned away leaves the gate as it was. -/
theorem Orderly.submit_of_error (orderly : gate.Orderly []) {answer : Answer}
    {failure : AskFailure} (turnedAway : (gate.submit answer).2 = .error failure) :
    (gate.submit answer).1 = gate := by
  rcases orderly.refused_or_taken answer with ⟨_, same⟩ | ⟨_, -, -, same⟩
  · rw [same]
  · rw [same] at turnedAway
    cases turnedAway

/-- After any run, an answer is turned away as unknown exactly if nothing is pending under its id,
and as inadmissible exactly if the question that is pending there refuses it; otherwise it is
taken. There is no other failure, and an answer that is turned away changes nothing. The asker of
each pending exchange can hear the reply. -/
theorem submit_exact (settings : GateSettings) (moves : List Move) {gate : Gate}
    (reached : (new settings).run moves = gate) (answer : Answer) :
    ((gate.submit answer).2 = .error (.notFound answer.questionId) ↔
        ∀ exchange ∈ gate.pending, exchange.question.id ≠ answer.questionId) ∧
      (∀ refusal, (gate.submit answer).2 = .error (.refused refusal) ↔
        ∃ exchange ∈ gate.pending, exchange.question.id = answer.questionId ∧
          exchange.question.refusal? answer = some refusal) ∧
      ((gate.submit answer).2 = .ok () ↔
        ∃ exchange ∈ gate.pending, exchange.question.id = answer.questionId ∧
          exchange.question.refusal? answer = none) ∧
      (∀ failure, (gate.submit answer).2 = .error failure →
        (failure = .notFound answer.questionId ∨ ∃ refusal, failure = .refused refusal) ∧
          (gate.submit answer).1 = gate) ∧
      ∀ exchange ∈ gate.pending, gate.canHear exchange.asker = true := by
  have orderly : gate.Orderly [] := reached ▸ orderly_run settings moves
  have distinct := orderly.distinctIds
  have replied := orderly.submit_eq_replyTo answer
  refine ⟨?_, fun refusal => ?_, ?_, fun failure turnedAway => ⟨?_, ?_⟩,
    fun exchange member => orderly.canHear member⟩
  · rw [replied]
    exact replyTo_eq_notFound_iff answer
  · rw [replied]
    exact distinct.replyTo_eq_refused_iff answer refusal
  · rw [replied]
    exact distinct.replyTo_eq_ok_iff answer
  · exact failure_of_replyTo (replied.symm.trans turnedAway)
  · exact orderly.submit_of_error turnedAway

/-- The ask that waits for a slot at the crowded gate is dropped. An answer to it then finds nothing
and changes nothing, and neither does one that breaks the rules of the other question. -/
theorem submit_exact_dropped :
    ((crowded.drop 1).submit (declining "Q-2")).2 = .error (.notFound "Q-2") ∧
      ((crowded.drop 1).submit (declining "Q-2")).1 = crowded.drop 1 ∧
      ((crowded.drop 1).submit
          { questionId := "Q-1", response := .freeText "ours", broadcast := false }).2 =
        .error (.refused (.freeTextNotAllowed "Q-1")) ∧
      ((crowded.drop 1).submit
          { questionId := "Q-1", response := .freeText "ours", broadcast := false }).1 =
        crowded.drop 1 := by
  have reached : (new { capacity := 0, defaultTimeout := none }).run (crowding ++ [.drop 1]) =
      crowded.drop 1 := run_concat _ crowding (.drop 1)
  obtain ⟨unknown, -, -, unchanged, -⟩ := submit_exact _ _ reached (declining "Q-2")
  obtain ⟨-, inadmissible, -, kept, -⟩ := submit_exact _ _ reached
    { questionId := "Q-1", response := .freeText "ours", broadcast := false }
  have notFound := unknown.mpr (by decide)
  have refused := (inadmissible (.freeTextNotAllowed "Q-1")).mpr (by decide)
  exact ⟨notFound, (unchanged _ notFound).2, refused, (kept _ refused).2⟩

end OperatorDesk.Gate
