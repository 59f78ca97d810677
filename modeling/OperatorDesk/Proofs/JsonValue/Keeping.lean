/-
This file shows that questions, answers, records of answered questions and settings are read back
as they were written. Each of them is written as a record of parts with distinct names, and each
part is decoded on its own. Whatever is read can be kept as well, since moments that are read are
on the calendar and numbers that are read are within their limits.
-/

import OperatorDesk.History.Json
import OperatorDesk.Proofs.JsonValue.Records
import OperatorDesk.Proofs.Moment.Writing
import OperatorDesk.Settings.Json

namespace OperatorDesk

open JsonValue

/-! ### Questions -/

namespace Question

variable (question : Question)

theorem writable_toJson : Writable question.toJson := by
  unfold toJson
  refine writable_record ?_
  cases question.context <;> simp [writable_ofText, writable_ofTexts, writable_bool]

theorem parts?_toJson : parts? partNames question.toJson =
    some [some (ofText question.id), some (ofText question.agent), some (ofText question.mission),
      question.context.map ofText, some (ofText question.text), some (ofTexts question.options),
      some (.bool question.allowsFreeText), some (.bool question.allowsBroadcast)] := by
  unfold toJson
  cases question.context <;> exact parts?_record rfl (by decide) rfl

theorem ofJson?_toJson : ofJson? question.toJson = some question := by
  rw [ofJson?, parts?_toJson]
  simp only [Option.bind_eq_bind, Option.bind_some, required?_some, given?_some, text?_ofText,
    given?_ofText, texts?_ofTexts, bool?, Option.pure_def]

theorem isKept : IsKept toJson ofJson? question :=
  isKept_of_writable question.writable_toJson question.ofJson?_toJson

end Question

/-! ### Answers -/

namespace Response

variable (response : Response)

theorem writable_toJson : Writable response.toJson := by
  cases response <;> exact writable_record (by simp [writable_ofText])

theorem ofJson?_toJson : ofJson? response.toJson = some response := by
  cases response <;> rfl

theorem isKept : IsKept toJson ofJson? response :=
  isKept_of_writable response.writable_toJson response.ofJson?_toJson

end Response

namespace Answer

variable (answer : Answer)

theorem writable_toJson : Writable answer.toJson :=
  writable_record (by simp [writable_ofText, writable_bool, Response.writable_toJson])

theorem parts?_toJson : parts? partNames answer.toJson =
    some [some (ofText answer.questionId), some answer.response.toJson,
      some (.bool answer.broadcast)] :=
  parts?_record rfl (by decide) rfl

theorem ofJson?_toJson : ofJson? answer.toJson = some answer := by
  rw [ofJson?, parts?_toJson]
  simp only [Option.bind_eq_bind, Option.bind_some, required?_some, given?_some, text?_ofText,
    Response.ofJson?_toJson, bool?, Option.pure_def]

theorem isKept : IsKept toJson ofJson? answer :=
  isKept_of_writable answer.writable_toJson answer.ofJson?_toJson

end Answer

/-! ### Records of answered questions -/

namespace Record

/-- The record's moments are on the calendar. -/
structure IsDated (record : Record) : Prop where
  askedAt : record.askedAt.IsReal
  answeredAt : record.answeredAt.IsReal

variable {record : Record}

theorem writable_toJson (record : Record) : Writable record.toJson :=
  writable_record (by
    simp [writable_ofText, Question.writable_toJson, Answer.writable_toJson])

theorem parts?_toJson (record : Record) : parts? partNames record.toJson =
    some [some record.question.toJson, some record.answer.toJson,
      some (ofText record.askedAt.text), some (ofText record.answeredAt.text)] :=
  parts?_record rfl (by decide) rfl

theorem ofJson?_toJson (dated : record.IsDated) : ofJson? record.toJson = some record := by
  have askedAt := Moment.ofText?_text dated.askedAt
  have answeredAt := Moment.ofText?_text dated.answeredAt
  rw [ofJson?, parts?_toJson]
  simp only [Option.bind_eq_bind, Option.bind_some, required?_some, Question.ofJson?_toJson,
    Answer.ofJson?_toJson, Moment.ofJson?, text?_ofText, askedAt, answeredAt, Option.pure_def]

theorem isKept (dated : record.IsDated) : IsKept toJson ofJson? record :=
  isKept_of_writable record.writable_toJson (ofJson?_toJson dated)

theorem isReal_of_ofJson? {part : Option JsonValue} {moment : Moment}
    (reads : required? Moment.ofJson? part = some moment) : moment.IsReal := by
  cases part with
  | none => cases reads
  | some value =>
    obtain ⟨text, -, read⟩ := Option.bind_eq_some_iff.mp reads
    exact Moment.isReal_of_ofText? read

theorem isDated_of_ofJson? {value : JsonValue} (reads : ofJson? value = some record) :
    record.IsDated := by
  simp only [ofJson?, Option.bind_eq_bind, Option.bind_eq_some_iff] at reads
  obtain ⟨parts, -, reads⟩ := reads
  split at reads
  · simp only [Option.bind_eq_some_iff, Option.pure_def, Option.some_inj] at reads
    obtain ⟨question, -, answer, -, askedAt, asked, answeredAt, answered, rfl⟩ := reads
    exact ⟨isReal_of_ofJson? asked, isReal_of_ofJson? answered⟩
  · cases reads

end Record

/-! ### Settings -/

namespace Settings

/-- The settings fit the numbers that hold them. -/
structure IsWithinLimits (settings : Settings) : Prop where
  compactBelow_le : settings.compactBelow ≤ widthLimit
  capacity_le : settings.capacity ≤ countLimit
  questionTimeoutSeconds_le : ∀ seconds ∈ settings.questionTimeoutSeconds, seconds ≤ countLimit
  tickMillis_le : settings.tickMillis ≤ countLimit

/-- The section of the layout. -/
def layoutJson (settings : Settings) : JsonValue :=
  .record [("compact_below", .ofNat settings.compactBelow)]

/-- The section of the gate. -/
def gateJson (settings : Settings) : JsonValue :=
  .record [("capacity", .ofNat settings.capacity),
    ("question_timeout_secs", settings.questionTimeoutSeconds.elim .null .ofNat)]

/-- The section of the surface. -/
def uiJson (settings : Settings) : JsonValue :=
  .record [("tick_rate_ms", .ofNat settings.tickMillis)]

theorem toJson_eq (settings : Settings) :
    settings.toJson = .record [("layout", settings.layoutJson), ("gate", settings.gateJson),
      ("ui", settings.uiJson)] := by
  unfold toJson gateJson
  cases settings.questionTimeoutSeconds <;> rfl

theorem writable_toJson (settings : Settings) : Writable settings.toJson := by
  have layout : Writable settings.layoutJson := writable_record (by simp [writable_ofNat])
  have gate : Writable settings.gateJson := by
    refine writable_record ?_
    cases settings.questionTimeoutSeconds <;> simp [writable_ofNat, writable_null]
  have ui : Writable settings.uiJson := writable_record (by simp [writable_ofNat])
  rw [toJson_eq]
  exact writable_record (by simp [layout, gate, ui])

variable {settings : Settings}

theorem layoutOfJson?_layoutJson (limited : settings.IsWithinLimits) :
    layoutOfJson? settings.layoutJson = some settings.compactBelow := by
  have parts : parts? ["compact_below"] settings.layoutJson =
      some [some (.ofNat settings.compactBelow)] := parts?_record rfl (by decide) rfl
  rw [layoutOfJson?, parts]
  exact nat?_ofNat limited.compactBelow_le

theorem gateOfJson?_gateJson (limited : settings.IsWithinLimits) :
    gateOfJson? settings.gateJson =
      some (settings.capacity, settings.questionTimeoutSeconds) := by
  have parts : parts? ["capacity", "question_timeout_secs"] settings.gateJson =
      some [some (.ofNat settings.capacity),
        some (settings.questionTimeoutSeconds.elim .null .ofNat)] :=
    parts?_record rfl (by decide) rfl
  have timeout := orNull?_ofNat limited.questionTimeoutSeconds_le
  simp only [gateOfJson?, parts, given?_some, nat?_ofNat limited.capacity_le, timeout,
    Option.bind_eq_bind, Option.bind_some, Option.pure_def]

theorem uiOfJson?_uiJson (limited : settings.IsWithinLimits) :
    uiOfJson? settings.uiJson = some settings.tickMillis := by
  have parts : parts? ["tick_rate_ms"] settings.uiJson =
      some [some (.ofNat settings.tickMillis)] := parts?_record rfl (by decide) rfl
  rw [uiOfJson?, parts]
  exact nat?_ofNat limited.tickMillis_le

theorem ofJson?_toJson (limited : settings.IsWithinLimits) :
    ofJson? settings.toJson = some settings := by
  have parts : parts? ["layout", "gate", "ui"] settings.toJson =
      some [some settings.layoutJson, some settings.gateJson, some settings.uiJson] :=
    parts?_record settings.toJson_eq (by decide) rfl
  simp only [ofJson?, parts, given?_some, layoutOfJson?_layoutJson limited,
    gateOfJson?_gateJson limited, uiOfJson?_uiJson limited, Option.bind_eq_bind,
    Option.bind_some, Option.pure_def]

theorem isKept (limited : settings.IsWithinLimits) : IsKept toJson ofJson? settings :=
  isKept_of_writable settings.writable_toJson (ofJson?_toJson limited)

theorem isWithinLimits_standard : standard.IsWithinLimits := by
  refine ⟨?_, ?_, nofun, ?_⟩ <;> decide

theorem layoutOfJson?_le {value : JsonValue} {compactBelow : Nat}
    (reads : layoutOfJson? value = some compactBelow) : compactBelow ≤ widthLimit := by
  simp only [layoutOfJson?, Option.bind_eq_bind, Option.bind_eq_some_iff] at reads
  obtain ⟨parts, -, reads⟩ := reads
  split at reads
  · exact given?_holds (· ≤ widthLimit) isWithinLimits_standard.compactBelow_le nat?_le reads
  · cases reads

theorem gateOfJson?_le {value : JsonValue} {gate : Nat × Option Nat}
    (reads : gateOfJson? value = some gate) :
    gate.1 ≤ countLimit ∧ ∀ seconds ∈ gate.2, seconds ≤ countLimit := by
  simp only [gateOfJson?, Option.bind_eq_bind, Option.bind_eq_some_iff] at reads
  obtain ⟨parts, -, reads⟩ := reads
  split at reads
  · simp only [Option.bind_eq_some_iff, Option.pure_def, Option.some_inj] at reads
    obtain ⟨capacity, capacityReads, timeout, timeoutReads, rfl⟩ := reads
    exact ⟨given?_holds (· ≤ countLimit) isWithinLimits_standard.capacity_le nat?_le capacityReads,
      given?_holds (∀ seconds ∈ ·, seconds ≤ countLimit)
        isWithinLimits_standard.questionTimeoutSeconds_le orNull?_le timeoutReads⟩
  · cases reads

theorem uiOfJson?_le {value : JsonValue} {tickMillis : Nat}
    (reads : uiOfJson? value = some tickMillis) : tickMillis ≤ countLimit := by
  simp only [uiOfJson?, Option.bind_eq_bind, Option.bind_eq_some_iff] at reads
  obtain ⟨parts, -, reads⟩ := reads
  split at reads
  · exact given?_holds (· ≤ countLimit) isWithinLimits_standard.tickMillis_le nat?_le reads
  · cases reads

theorem isWithinLimits_of_ofJson? {value : JsonValue} (reads : ofJson? value = some settings) :
    settings.IsWithinLimits := by
  simp only [ofJson?, Option.bind_eq_bind, Option.bind_eq_some_iff] at reads
  obtain ⟨parts, -, reads⟩ := reads
  split at reads
  · simp only [Option.bind_eq_some_iff, Option.pure_def, Option.some_inj] at reads
    obtain ⟨gate, gateReads, compactBelow, layoutReads, tickMillis, uiReads, rfl⟩ := reads
    have counts := given?_holds
      (fun counts => counts.1 ≤ countLimit ∧ ∀ seconds ∈ counts.2, seconds ≤ countLimit)
      ⟨isWithinLimits_standard.capacity_le, isWithinLimits_standard.questionTimeoutSeconds_le⟩
      gateOfJson?_le gateReads
    exact
      { compactBelow_le := given?_holds (· ≤ widthLimit) isWithinLimits_standard.compactBelow_le
          layoutOfJson?_le layoutReads
        capacity_le := counts.1
        questionTimeoutSeconds_le := counts.2
        tickMillis_le := given?_holds (· ≤ countLimit) isWithinLimits_standard.tickMillis_le
          uiOfJson?_le uiReads }
  · cases reads

end Settings

/-! ### All that is kept -/

namespace JsonValue

/-- Every question, response and answer is read back as it was written, and so are records with
moments on the calendar and settings within their limits. Every value that was read from some text
is read back, too. -/
theorem reading_undoes_writing :
    (∀ question, IsKept Question.toJson Question.ofJson? question) ∧
    (∀ response, IsKept Response.toJson Response.ofJson? response) ∧
    (∀ answer, IsKept Answer.toJson Answer.ofJson? answer) ∧
    (∀ record : Record, record.IsDated → IsKept Record.toJson Record.ofJson? record) ∧
    (∀ settings : Settings, settings.IsWithinLimits →
      IsKept Settings.toJson Settings.ofJson? settings) ∧
    IsStable Question.toJson Question.ofJson? ∧
    IsStable Response.toJson Response.ofJson? ∧
    IsStable Answer.toJson Answer.ofJson? ∧
    IsStable Record.toJson Record.ofJson? ∧
    IsStable Settings.toJson Settings.ofJson? := by
  refine ⟨Question.isKept, Response.isKept, Answer.isKept, fun _ => Record.isKept,
    fun _ => Settings.isKept, fun _ question _ => question.isKept,
    fun _ response _ => response.isKept, fun _ answer _ => answer.isKept, ?_, ?_⟩
  · intro text record reads
    obtain ⟨value, -, decodes⟩ := Option.bind_eq_some_iff.mp reads
    exact Record.isKept (Record.isDated_of_ofJson? decodes)
  · intro text settings reads
    obtain ⟨value, -, decodes⟩ := Option.bind_eq_some_iff.mp reads
    exact Settings.isKept (Settings.isWithinLimits_of_ofJson? decodes)

/-- A record of an answer in a leap second, with quotes, controls and a pair of surrogates in its
texts. -/
def leapSecondRecord : Record :=
  { question := { Question.plain "Q-1" "\"a\\b\"\x00\n𝄞" with options := ["\t", ""] }
    answer := { questionId := "Q-1", response := .freeText "\x1f", broadcast := true }
    askedAt := { date := { year := 0, month := 2, day := 29 }, secondOfDay := 0, nanos := 1000 }
    answeredAt :=
      { date := { year := 9999, month := 12, day := 31 }, secondOfDay := 86399
        nanos := 1999999999 } }

/-- The largest settings. -/
def largestSettings : Settings :=
  { compactBelow := Settings.widthLimit, capacity := Settings.countLimit
    questionTimeoutSeconds := some Settings.countLimit, tickMillis := Settings.countLimit }

theorem reading_undoes_writing_leapSecond :
    (leapSecondRecord.IsDated ∧ IsKept Record.toJson Record.ofJson? leapSecondRecord) ∧
      (largestSettings.IsWithinLimits ∧
        IsKept Settings.toJson Settings.ofJson? largestSettings) ∧
      decodeText? Response.ofJson? "[\"skip\", null]" = some .skip ∧
      IsKept Response.toJson Response.ofJson? .skip := by
  have asked : leapSecondRecord.askedAt.IsReal :=
    ⟨by constructor <;> decide, by decide, by decide, by decide⟩
  have answered : leapSecondRecord.answeredAt.IsReal :=
    ⟨by constructor <;> decide, by decide, by decide, fun _ => rfl⟩
  have dated : leapSecondRecord.IsDated := ⟨asked, answered⟩
  have limited : largestSettings.IsWithinLimits :=
    ⟨Nat.le_refl _, Nat.le_refl _,
      fun _ isLargest => Nat.le_of_eq (Option.some_inj.mp isLargest).symm, Nat.le_refl _⟩
  have reads : decodeText? Response.ofJson? "[\"skip\", null]" = some .skip := by decide +kernel
  obtain ⟨-, -, -, records, settings, -, responses, -, -, -⟩ := reading_undoes_writing
  exact ⟨⟨dated, records _ dated⟩, ⟨limited, settings _ limited⟩, reads, responses _ _ reads⟩

end JsonValue

end OperatorDesk
