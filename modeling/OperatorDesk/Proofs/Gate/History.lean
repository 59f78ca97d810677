/-
This file shows that the history is the log of the accepted answers, in order, each with the
question that was pending when it was accepted, and that whoever hears an answer hears the one
that was accepted for the question it asked.
-/

import OperatorDesk.Proofs.Gate.Ledger
import OperatorDesk.Proofs.Gate.Rest

namespace OperatorDesk.Gate

/-- A later history extends an earlier one by the answers that were accepted meanwhile. -/
theorem history_run (settings : GateSettings) (moves rest : List Move) :
    (((new settings).run moves).run rest).history =
      ((new settings).run moves).history ++
        (((new settings).run moves).receipts rest).map Receipt.record := by
  rw [← run_append, (ledger_run settings (moves ++ rest)).book.history,
    (ledger_run settings moves).book.history, receipts, observed_append, List.map_append]
  rfl

/-- The question that an asker asks is that of its ask. -/
theorem question_of_asked {settings : GateSettings} {moves : List Move} {id : AskerId}
    {asker : Asker} (known : ((new settings).run moves).askers[id]? = some asker) :
    ((asked moves)[id]?).map Prod.snd = some asker.question := by
  rw [← List.getElem?_map, ← questions_run settings moves, List.getElem?_map, known]
  rfl

/-- The history is the list of accepted answers. Each was admissible for its question, no
exchange has two, and an ask that ended with an answer has it from its own exchange. -/
theorem history_logs_receipts (settings : GateSettings) (moves : List Move) {gate : Gate}
    (reached : (new settings).run moves = gate) :
    gate.history = ((new settings).receipts moves).map Receipt.record ∧
      (∀ rest, (gate.run rest).history =
        gate.history ++ (gate.receipts rest).map Receipt.record) ∧
      (∀ record ∈ gate.history, record.question.refusal? record.answer = none ∧
        record.answer.questionId = record.question.id) ∧
      (((new settings).receipts moves).map (·.exchange.number)).Nodup ∧
      (((new settings).registrations moves).map (·.exchange.number)).Nodup ∧
      (((new settings).registrations moves).map (·.exchange.asker)).Nodup ∧
      ∀ id answer, gate.stage? id = some (.ended (.answered answer)) →
        ∃ receipt ∈ (new settings).receipts moves,
          ∃ registration ∈ (new settings).registrations moves,
            registration.exchange.asker = id ∧
              receipt.exchange.number = registration.exchange.number ∧
              ((asked moves)[id]?).map Prod.snd = some receipt.exchange.question ∧
              receipt.answer = answer := by
  subst reached
  have ledger := ledger_run settings moves
  refine ⟨ledger.book.history, history_run settings moves, ?_, ledger.book.once, ?_,
    ledger.origins.apart, ?_⟩
  · intro record member
    rw [ledger.book.history] at member
    obtain ⟨receipt, isReceipt, rfl⟩ := List.mem_map.mp member
    exact ledger.book.admissible receipt isReceipt
  · rw [ledger.book.numbers]
    exact List.nodup_range'
  · intro id answer ended
    obtain ⟨asker, known, stage⟩ := Option.map_eq_some_iff.mp ended
    have reply := (ledger.replies.consistent id asker known).heard answer stage
    obtain ⟨receipt, member, isOwn, sameQuestion, sameAnswer⟩ :=
      ledger.replies.received id asker answer known reply
    obtain ⟨registration, isRegistration, same⟩ :=
      List.mem_map.mp (ledger.book.entered receipt member)
    refine ⟨receipt, member, registration, isRegistration, ?_, ?_, ?_, sameAnswer⟩
    · rw [same]
      exact isOwn
    · rw [same]
      rfl
    · rw [question_of_asked known, sameQuestion]

/-- In the crowded gate the first question is answered, and its asker hears that. -/
theorem history_logs_receipts_crowded :
    ∃ receipt ∈ (new { capacity := 0, defaultTimeout := none }).receipts
        (crowding ++ [.submit (declining "Q-1"), .poll 0]),
      receipt.exchange.number = 1 ∧ receipt.answer = declining "Q-1" := by
  have logged := history_logs_receipts { capacity := 0, defaultTimeout := none }
    (crowding ++ [.submit (declining "Q-1"), .poll 0]) rfl
  obtain ⟨-, -, -, -, -, -, heard⟩ := logged
  obtain ⟨receipt, member, registration, isRegistration, isOwn, sameNumber, -, sameAnswer⟩ :=
    heard 0 (declining "Q-1") (by decide)
  refine ⟨receipt, member, sameNumber.trans ?_, sameAnswer⟩
  have first : ∀ registration ∈ (new { capacity := 0, defaultTimeout := none }).registrations
      (crowding ++ [.submit (declining "Q-1"), .poll 0]),
      registration.exchange.asker = 0 → registration.exchange.number = 1 := by decide
  exact first registration isRegistration isOwn

end OperatorDesk.Gate
