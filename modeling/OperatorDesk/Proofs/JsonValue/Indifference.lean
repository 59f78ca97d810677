/-
This file shows that questions, answers, responses, records of answered questions and settings are
decoded without regard to the order of members and to members of other names. Every decoder reads
the parts of a record one by one, and each part is read alike when it says the same; so the
argument is made part by part and put together for each record.
-/

import OperatorDesk.Proofs.JsonValue.Keeping
import OperatorDesk.Proofs.JsonValue.Members

namespace OperatorDesk

namespace JsonValue

/-! ### Decoding parts -/

/-- Values that say the same are decoded alike, and flawed values are not decoded. -/
structure Shape.Respected {Value : Type} (shape : Shape) (decode : JsonValue → Option Value) :
    Prop where
  same : ∀ {left right}, shape.Same left right → decode left = decode right
  flawed : ∀ {value}, shape.Flawed value → decode value = none

/-- Parts that say the same of a member are read alike, and flawed parts are not read. -/
structure Field.Respected {Value : Type} (field : Field)
    (read : Option JsonValue → Option Value) : Prop where
  same : ∀ {left right}, field.SamePart left right → read left = read right
  flawed : ∀ {part}, field.FlawedPart part → read part = none

section

variable {Value : Type} {shape : Shape} {decode : JsonValue → Option Value}

theorem respected_plain (decode : JsonValue → Option Value) : Shape.plain.Respected decode where
  same := by
    rintro left _ rfl
    rfl
  flawed := nofun

/-- What a part is read as depends on the value that it stands for only. -/
theorem Field.respected_of_bind {field : Field} {read : Option JsonValue → Option Value}
    (respected : field.shape.Respected decode)
    (reads : ∀ part, read part = (part.or field.otherwise).bind decode)
    (required : field.presence = .required → read none = none) : field.Respected read where
  same := by
    intro left right same
    rw [reads, reads]
    unfold SamePart at same
    generalize left.or field.otherwise = first at same ⊢
    generalize right.or field.otherwise = second at same ⊢
    cases same with
    | none => rfl
    | some same => exact respected.same same
  flawed := by
    intro part flawed
    cases part with
    | none => exact required flawed
    | some value =>
      rw [reads]
      exact respected.flawed flawed

theorem respected_required (name : String) (respected : shape.Respected decode) :
    (Field.needed name shape).Respected (required? decode) :=
  Field.respected_of_bind respected (fun part => by cases part <;> rfl) fun _ => rfl

theorem respected_given (name : String) {value : JsonValue} {otherwise : Value}
    (respected : shape.Respected decode) (stands : decode value = some otherwise) :
    (Field.standing name value shape).Respected (given? otherwise decode) :=
  Field.respected_of_bind respected
    (fun part => by
      cases part with
      | none => exact stands.symm
      | some value => rfl)
    nofun

/-- A record is decoded from its parts. -/
theorem respected_record {fields : List Field} {build : List (Option JsonValue) → Option Value}
    (decodes : ∀ value, decode value = (value.parts? (fieldNames fields)).bind build)
    (same : ∀ {left right}, SameParts fields left right → build left = build right)
    (flawed : ∀ {parts}, FlawedParts fields parts → build parts = none) :
    (Shape.record fields).Respected decode where
  same := by
    intro left right alike
    rw [decodes, decodes]
    have parts := alike.sameParts
    generalize left.parts? (fieldNames fields) = lefts at parts ⊢
    generalize right.parts? (fieldNames fields) = rights at parts ⊢
    cases parts with
    | none => rfl
    | some parts => exact same parts
  flawed := by
    intro value isFlawed
    rw [decodes]
    cases given : value.parts? (fieldNames fields) with
    | none => rfl
    | some parts => exact flawed (isFlawed.flawedParts given)

theorem flawedParts_cons {field : Field} {fields : List Field} {part : Option JsonValue}
    {parts : List (Option JsonValue)} :
    FlawedParts (field :: fields) (part :: parts) ↔
      field.FlawedPart part ∨ FlawedParts fields parts := by
  constructor
  · rintro (flawed | flawed)
    · exact .inl flawed
    · exact .inr flawed
  · rintro (flawed | flawed)
    · exact .here flawed
    · exact .later flawed

theorem flawedParts_nil {parts : List (Option JsonValue)} : ¬FlawedParts [] parts := nofun

/-- Parts of a plain member for which nothing stands say the same only if they are the same. -/
theorem samePart_plain_eq {name : String} {presence : Presence} {left right : Option JsonValue}
    (noDefault : Field.otherwise { name, presence, shape := .plain } = none)
    (same : Field.SamePart { name, presence, shape := .plain } left right) : left = right := by
  rw [Field.SamePart, noDefault, Option.or_none, Option.or_none] at same
  cases same with
  | none => rfl
  | some same => exact congrArg some same

/-- A part of a plain member says nothing only if it is missing though it is required. -/
theorem flawedPart_plain {name : String} {presence : Presence} {part : Option JsonValue} :
    Field.FlawedPart { name, presence, shape := .plain } part ↔
      presence = .required ∧ part = none := by
  cases part <;> simp [Field.FlawedPart, Shape.plain]

theorem flawedPart_needed_plain {name : String} {part : Option JsonValue} :
    (Field.needed name .plain).FlawedPart part ↔ part = none :=
  flawedPart_plain.trans (and_iff_right rfl)

theorem flawedPart_standing_plain {name : String} {value : JsonValue} {part : Option JsonValue} :
    ¬(Field.standing name value .plain).FlawedPart part :=
  fun flawed => nomatch (flawedPart_plain.mp flawed).1

end

end JsonValue

open JsonValue

/-! ### Questions -/

namespace Question

/-- The known members of a question. -/
def fields : List Field :=
  [.needed "id" .plain, .needed "agent_id" .plain, .needed "mission_id" .plain,
    .standing "context_id" .null .plain, .needed "text" .plain,
    .standing "options" (.array []) .plain, .standing "allow_free_text" (.bool false) .plain,
    .standing "allow_broadcast" (.bool false) .plain]

theorem respected : (Shape.record fields).Respected ofJson? := by
  have text (name : String) := respected_required name (respected_plain text?)
  have context := respected_given "context_id" (respected_plain (orNull? text?))
    (rfl : orNull? text? .null = some none)
  have options := respected_given "options" (respected_plain texts?) (texts?_ofTexts [])
  have flag (name : String) := respected_given name (respected_plain bool?)
    (rfl : bool? (.bool false) = some false)
  refine respected_record (fun _ => rfl) ?_ ?_
  · rintro _ _ (_ | ⟨sameId, _ | ⟨sameAgent, _ | ⟨sameMission, _ | ⟨sameContext,
      _ | ⟨sameText, _ | ⟨sameOptions, _ | ⟨sameFreeText, _ | ⟨sameBroadcast, _ | _⟩⟩⟩⟩⟩⟩⟩⟩)
    simp only [(text _).same sameId, (text _).same sameAgent, (text _).same sameMission,
      context.same sameContext, (text _).same sameText, options.same sameOptions,
      (flag _).same sameFreeText, (flag _).same sameBroadcast]
  · intro parts isFlawed
    split
    · simp only [fields, flawedParts_cons, flawedParts_nil, flawedPart_needed_plain,
        flawedPart_standing_plain, or_false, false_or] at isFlawed
      rcases isFlawed with rfl | rfl | rfl | rfl <;> simp [required?]
    · rfl

end Question

/-! ### Answers -/

namespace Response

/-- The known members of a response. -/
def fields : List Field :=
  [.needed "kind" .plain, { name := "value", presence := .optional, shape := .plain }]

/-- A response has no value, though its kind is not that of a skip. -/
def LacksValue (value : JsonValue) : Prop :=
  ∃ members, value = .object members ∧ membersNamed "value" members = [] ∧
    ∀ kind ∈ membersNamed "kind" members, Kind.ofJson? kind ≠ some .skip

/-- The shape of a response. -/
def shape : Shape :=
  { Shape.record fields with Flawed := fun value => FlawedRecord fields value ∨ LacksValue value }

/-- The response that the parts of an object stand for. -/
def ofParts? : List (Option JsonValue) → Option Response
  | [some kind, value] => (Kind.ofJson? kind).bind (ofKind? · value)
  | _ => none

theorem ofJson?_object (members : Members) :
    ofJson? (.object members) = (parts? (fieldNames fields) (.object members)).bind ofParts? :=
  rfl

/-- A response that is an object is decoded from its parts; one that is an array is read in its
order and has nothing but plain items. -/
theorem ofJson?_congr {left right : JsonValue} (same : SameRecord fields left right) :
    ofJson? left = ofJson? right := by
  cases same with
  | self => rfl
  | @objects left right named known =>
    have parts := sameParts_objects named known
    rw [ofJson?_object, ofJson?_object]
    generalize parts? (fieldNames fields) (.object left) = lefts at parts ⊢
    generalize parts? (fieldNames fields) (.object right) = rights at parts ⊢
    cases parts with
    | none => rfl
    | some parts =>
      obtain _ | ⟨kind, _ | ⟨value, _ | _⟩⟩ := parts
      rw [samePart_plain_eq rfl kind, samePart_plain_eq rfl value]
  | arrays items =>
    obtain _ | ⟨kind, _ | ⟨value, _ | _⟩⟩ := items
    · rfl
    · rfl
    · obtain rfl : _ = _ := kind
      obtain rfl : _ = _ := value
      rfl

theorem ofJson?_flawed {value : JsonValue} (isFlawed : FlawedRecord fields value) :
    ofJson? value = none := by
  cases value with
  | object members =>
    rw [ofJson?_object]
    cases given : parts? (fieldNames fields) (.object members) with
    | none => rfl
    | some parts =>
      have isFlawed := isFlawed.flawedParts given
      rw [Option.bind_some]
      unfold ofParts?
      split
      · simp only [fields, flawedParts_cons, flawedParts_nil, flawedPart_needed_plain,
          flawedPart_plain, reduceCtorEq, false_and, or_false] at isFlawed
      · rfl
  | array items =>
    cases isFlawed with
    | items isFlawed =>
      -- Both members are plain, and so no item is flawed.
      cases isFlawed with
      | here isFlawed => exact isFlawed.elim
      | later isFlawed =>
        cases isFlawed with
        | here isFlawed => exact isFlawed.elim
        | later isFlawed => cases isFlawed
  | _ => cases isFlawed

/-- Only a skip can do without a value. -/
theorem ofJson?_lacksValue {value : JsonValue} (lacks : LacksValue value) :
    ofJson? value = none := by
  obtain ⟨members, rfl, noValue, noSkip⟩ := lacks
  rw [ofJson?_object]
  by_cases named : ∀ member ∈ members, member.1.isSome
  · rw [parts?_object named]
    show ((atMostOne? (membersNamed "kind" members)).bind fun kind =>
      (atMostOne? (membersNamed "value" members)).bind fun value =>
        some [kind, value]).bind ofParts? = none
    rw [noValue]
    match membersNamed "kind" members, noSkip with
    | [], _ => rfl
    | [kind], noSkip =>
      show (Kind.ofJson? kind).bind (ofKind? · none) = none
      have other := noSkip kind List.mem_cons_self
      cases isKind : Kind.ofJson? kind with
      | none => rfl
      | some kind =>
        rw [isKind] at other
        cases kind with
        | skip => exact absurd rfl other
        | _ => rfl
    | _ :: _ :: _, _ => rfl
  · rw [parts?_unnamed named]
    rfl

theorem respected : shape.Respected ofJson? where
  same := ofJson?_congr
  flawed := by
    rintro value (isFlawed | lacks)
    · exact ofJson?_flawed isFlawed
    · exact ofJson?_lacksValue lacks

end Response

namespace Answer

/-- The known members of an answer. -/
def fields : List Field :=
  [.needed "question_id" .plain, .needed "response" Response.shape,
    .standing "broadcast" (.bool false) .plain]

theorem respected : (Shape.record fields).Respected ofJson? := by
  have questionId := respected_required "question_id" (respected_plain text?)
  have response := respected_required "response" Response.respected
  have broadcast := respected_given "broadcast" (respected_plain bool?)
    (rfl : bool? (.bool false) = some false)
  refine respected_record (fun _ => rfl) ?_ ?_
  · rintro _ _ (_ | ⟨sameId, _ | ⟨sameResponse, _ | ⟨sameBroadcast, _ | _⟩⟩⟩)
    simp only [questionId.same sameId, response.same sameResponse, broadcast.same sameBroadcast]
  · intro parts isFlawed
    split
    · simp only [fields, flawedParts_cons, flawedParts_nil, flawedPart_needed_plain,
        flawedPart_standing_plain, or_false] at isFlawed
      rcases isFlawed with rfl | isFlawed
      · simp [required?]
      · simp [response.flawed isFlawed]
    · rfl

end Answer

/-! ### Records of answered questions -/

namespace Record

/-- The known members of a record of an answered question. -/
def fields : List Field :=
  [.needed "question" (.record Question.fields), .needed "answer" (.record Answer.fields),
    .needed "asked_at" .plain, .needed "answered_at" .plain]

theorem respected : (Shape.record fields).Respected ofJson? := by
  have question := respected_required "question" Question.respected
  have answer := respected_required "answer" Answer.respected
  have moment (name : String) := respected_required name (respected_plain Moment.ofJson?)
  refine respected_record (fun _ => rfl) ?_ ?_
  · rintro _ _ (_ | ⟨sameQuestion, _ | ⟨sameAnswer, _ | ⟨sameAsked, _ | ⟨sameAnswered, _ | _⟩⟩⟩⟩)
    simp only [question.same sameQuestion, answer.same sameAnswer, (moment _).same sameAsked,
      (moment _).same sameAnswered]
  · intro parts isFlawed
    split
    · simp only [fields, flawedParts_cons, flawedParts_nil, flawedPart_needed_plain,
        or_false] at isFlawed
      rcases isFlawed with isFlawed | isFlawed | rfl | rfl
      · simp [question.flawed isFlawed]
      · simp [answer.flawed isFlawed]
      all_goals simp [required?]
    · rfl

end Record

/-! ### Settings -/

namespace Settings

/-- The known members of the section of the layout. -/
def layoutFields : List Field :=
  [.standing "compact_below" (.ofNat standard.compactBelow) .plain]

/-- The known members of the section of the gate. -/
def gateFields : List Field :=
  [.standing "capacity" (.ofNat standard.capacity) .plain,
    .standing "question_timeout_secs" .null .plain]

/-- The known members of the section of the surface. -/
def uiFields : List Field :=
  [.standing "tick_rate_ms" (.ofNat standard.tickMillis) .plain]

/-- The known members of settings: the three sections. -/
def fields : List Field :=
  [.standing "layout" standard.layoutJson (.record layoutFields),
    .standing "gate" standard.gateJson (.record gateFields),
    .standing "ui" standard.uiJson (.record uiFields)]

/-- A section with a single number. -/
theorem respected_number (name : String) {usual limit : Nat} (fits : usual ≤ limit) :
    (Shape.record [.standing name (.ofNat usual) .plain]).Respected fun value =>
      (value.parts? [name]).bind fun
        | [part] => given? usual (nat? limit) part
        | _ => none := by
  have number := respected_given name (respected_plain (nat? limit)) (nat?_ofNat fits)
  refine respected_record (fun _ => rfl) ?_ ?_
  · rintro _ _ (_ | ⟨same, _ | _⟩)
    exact number.same same
  · intro parts isFlawed
    split
    · simp only [flawedParts_cons, flawedParts_nil, flawedPart_standing_plain, or_false] at isFlawed
    · rfl

theorem respected_layout : (Shape.record layoutFields).Respected layoutOfJson? :=
  respected_number "compact_below" isWithinLimits_standard.compactBelow_le

theorem respected_gate : (Shape.record gateFields).Respected gateOfJson? := by
  have capacity := respected_given "capacity" (respected_plain (nat? countLimit))
    (nat?_ofNat isWithinLimits_standard.capacity_le)
  have timeout := respected_given "question_timeout_secs"
    (respected_plain (orNull? (nat? countLimit)))
    (rfl : orNull? (nat? countLimit) .null = some none)
  refine respected_record (fun _ => rfl) ?_ ?_
  · rintro _ _ (_ | ⟨sameCapacity, _ | ⟨sameTimeout, _ | _⟩⟩)
    simp only [capacity.same sameCapacity, timeout.same sameTimeout]
  · intro parts isFlawed
    split
    · simp only [gateFields, flawedParts_cons, flawedParts_nil, flawedPart_standing_plain,
        or_false] at isFlawed
    · rfl

theorem respected_ui : (Shape.record uiFields).Respected uiOfJson? :=
  respected_number "tick_rate_ms" isWithinLimits_standard.tickMillis_le

theorem respected : (Shape.record fields).Respected ofJson? := by
  have layout := respected_given "layout" respected_layout
    (layoutOfJson?_layoutJson isWithinLimits_standard)
  have gate : (Field.standing "gate" standard.gateJson (.record gateFields)).Respected
      (given? (standard.capacity, none) gateOfJson?) :=
    respected_given "gate" respected_gate (gateOfJson?_gateJson isWithinLimits_standard)
  have ui := respected_given "ui" respected_ui (uiOfJson?_uiJson isWithinLimits_standard)
  refine respected_record (fun _ => rfl) ?_ ?_
  · rintro _ _ (_ | ⟨sameLayout, _ | ⟨sameGate, _ | ⟨sameUi, _ | _⟩⟩⟩)
    simp only [layout.same sameLayout, gate.same sameGate, ui.same sameUi]
  · intro parts isFlawed
    split
    · simp only [fields, flawedParts_cons, flawedParts_nil, or_false] at isFlawed
      rcases isFlawed with isFlawed | isFlawed | isFlawed
      · simp [layout.flawed isFlawed]
      · simp [gate.flawed isFlawed]
      · simp [ui.flawed isFlawed]
    · rfl

end Settings

/-! ### Texts of records -/

namespace JsonValue

/-- JSON texts are decoded for what they say of the known members. -/
structure IsIndifferent {Value : Type} (fields : List Field) (decode : JsonValue → Option Value) :
    Prop where
  /-- Texts of values that say the same are decoded alike. -/
  alike : ∀ {left right leftText rightText}, IsTextOf left leftText → IsTextOf right rightText →
    SameRecord fields left right → decodeText? decode leftText = decodeText? decode rightText
  /-- The order of the members does not matter. -/
  reordered : ∀ {left right leftText rightText}, IsTextOf (.object left) leftText →
    IsTextOf (.object right) rightText → left.Perm right →
    decodeText? decode leftText = decodeText? decode rightText
  /-- Members of other names do not matter, if their names are texts. -/
  unknown : ∀ {members knownText text},
    IsTextOf (.object (members.filter (isKnown fields))) knownText →
    IsTextOf (.object members) text → (∀ member ∈ members, member.1.isSome) →
    decodeText? decode knownText = decodeText? decode text
  /-- A member that is missing is decoded like the value that stands for it. -/
  defaulted : ∀ {before after text givenText}, ∀ field ∈ fields, ∀ value,
    field.presence = .defaulted value → membersNamed field.name (before ++ after) = [] →
    IsTextOf (.object (before ++ after)) text →
    IsTextOf (.object (before ++ (some field.name, value) :: after)) givenText →
    decodeText? decode text = decodeText? decode givenText
  /-- Members that are given twice and required members that are missing are not accepted. -/
  flawed : ∀ {value text}, IsTextOf value text → FlawedRecord fields value →
    decodeText? decode text = none
  /-- Nor is a member whose name is no text, whatever is said of the known members. -/
  unnamed : ∀ {members text}, IsTextOf (.object members) text →
    (∃ member ∈ members, member.1 = none) → decodeText? decode text = none

theorem IsTextOf.decodeText? {Value : Type} {value : JsonValue} {text : String}
    (isText : IsTextOf value text) (decode : JsonValue → Option Value) :
    decodeText? decode text = decode value := by
  rw [JsonValue.decodeText?, isText.ofText?]
  rfl

theorem isIndifferent {Value : Type} {fields : List Field} {decode : JsonValue → Option Value}
    (same : ∀ {left right}, SameRecord fields left right → decode left = decode right)
    (flawed : ∀ {value}, FlawedRecord fields value → decode value = none)
    (distinct : (fieldNames fields).Nodup) : IsIndifferent fields decode := by
  have alike {left right leftText rightText} (isLeft : IsTextOf left leftText)
      (isRight : IsTextOf right rightText) (related : SameRecord fields left right) :
      decodeText? decode leftText = decodeText? decode rightText := by
    rw [isLeft.decodeText?, isRight.decodeText?, same related]
  exact
    { alike
      reordered isLeft isRight reordered := alike isLeft isRight (.of_perm reordered)
      unknown isKnown isText named := alike isKnown isText (.of_filter named)
      defaulted field known value stands isMissing isText isGiven :=
        alike isText isGiven (.of_default distinct known stands isMissing)
      flawed isText isFlawed := by rw [isText.decodeText?, flawed isFlawed]
      unnamed := by
        rintro members text isText ⟨⟨_, value⟩, member, rfl⟩
        rw [isText.decodeText?, flawed (.unnamed member)] }

/-- Questions, answers, responses, records of answered questions and settings are decoded for what
is said of their known members, at every level. Besides, a response other than a skip is not
decoded without a value. -/
theorem decoding_is_indifferent :
    IsIndifferent Question.fields Question.ofJson? ∧
    IsIndifferent Answer.fields Answer.ofJson? ∧
    IsIndifferent Response.fields Response.ofJson? ∧
    (∀ value text, IsTextOf value text → Response.LacksValue value →
      decodeText? Response.ofJson? text = none) ∧
    IsIndifferent Record.fields Record.ofJson? ∧
    IsIndifferent Settings.fields Settings.ofJson? := by
  refine ⟨isIndifferent Question.respected.same Question.respected.flawed (by decide),
    isIndifferent Answer.respected.same Answer.respected.flawed (by decide),
    isIndifferent Response.ofJson?_congr Response.ofJson?_flawed (by decide), ?_,
    isIndifferent Record.respected.same Record.respected.flawed (by decide),
    isIndifferent Settings.respected.same Settings.respected.flawed (by decide)⟩
  intro value text isText lacks
  rw [isText.decodeText?, Response.ofJson?_lacksValue lacks]

/-- A skip as an answer, without more than what is required. -/
def briefAnswer : JsonValue :=
  record [("question_id", ofText "Q-1"), ("response", record [("kind", ofText "skip")])]

/-- The same answer in another order, with its default and with members of other names. -/
def verboseAnswer : JsonValue :=
  record [("x", .null), ("broadcast", .bool false),
    ("response", record [("y", .array []), ("kind", ofText "skip")]), ("question_id", ofText "Q-1")]

/-- An answer with two kinds in its response. -/
def ambiguousAnswer : JsonValue :=
  record [("question_id", ofText "Q-1"),
    ("response", record [("kind", ofText "skip"), ("kind", ofText "skip")])]

theorem writable_briefAnswer : Writable briefAnswer :=
  writable_record (by simp [writable_ofText, writable_record])

theorem writable_verboseAnswer : Writable verboseAnswer :=
  writable_record (by simp [writable_ofText, writable_record, Writable, WritableItems])

theorem writable_ambiguousAnswer : Writable ambiguousAnswer :=
  writable_record (by simp [writable_ofText, writable_record])

theorem sameRecord_verboseAnswer : SameRecord Answer.fields briefAnswer verboseAnswer := by
  refine SameRecord.objects (by decide) fun field known => ?_
  simp only [Answer.fields, List.mem_cons, List.not_mem_nil, or_false] at known
  rcases known with rfl | rfl | rfl
  · exact Field.sameGiven_of_given rfl rfl rfl
  · refine Field.sameGiven_of_given rfl rfl (SameRecord.objects (by decide) fun field known => ?_)
    simp only [Response.fields, List.mem_cons, List.not_mem_nil, or_false] at known
    rcases known with rfl | rfl
    · exact Field.sameGiven_of_given rfl rfl rfl
    · exact ⟨[], .refl _, .nil⟩
  · exact Field.sameGiven_of_given rfl rfl rfl

theorem flawedRecord_ambiguousAnswer : FlawedRecord Answer.fields ambiguousAnswer := by
  have twice : FlawedRecord Response.fields
      (record [("kind", ofText "skip"), ("kind", ofText "skip")]) :=
    .twice (.head _) (by decide)
  exact .within (.tail _ (.head _)) rfl (.inl twice)

theorem decoding_is_indifferent_skip :
    (IsTextOf briefAnswer
        " \n\x7b\"question_id\":\"Q-1\",\"response\":\x7b\"kind\":\"skip\"\x7d\x7d \n" ∧
      IsTextOf verboseAnswer verboseAnswer.text ∧
      SameRecord Answer.fields briefAnswer verboseAnswer ∧
      decodeText? Answer.ofJson?
          " \n\x7b\"question_id\":\"Q-1\",\"response\":\x7b\"kind\":\"skip\"\x7d\x7d \n" =
        decodeText? Answer.ofJson? verboseAnswer.text ∧
      decodeText? Answer.ofJson? verboseAnswer.text =
        some { questionId := "Q-1", response := .skip, broadcast := false }) ∧
    (IsTextOf ambiguousAnswer ambiguousAnswer.text ∧
      FlawedRecord Answer.fields ambiguousAnswer ∧
      decodeText? Answer.ofJson? ambiguousAnswer.text = none) ∧
    IsTextOf (record [("kind", ofText "selected")]) "\x7b\"kind\":\"selected\"\x7d" ∧
      Response.LacksValue (record [("kind", ofText "selected")]) ∧
      decodeText? Response.ofJson? "\x7b\"kind\":\"selected\"\x7d" = none := by
  have gaps : IsGaps [' ', '\n'] := List.all_eq_true.mp rfl
  have brief : IsTextOf briefAnswer
      " \n\x7b\"question_id\":\"Q-1\",\"response\":\x7b\"kind\":\"skip\"\x7d\x7d \n" :=
    .gaps gaps (spells_chars briefAnswer writable_briefAnswer) gaps
  have verbose := isTextOf_text writable_verboseAnswer
  have ambiguous := isTextOf_text writable_ambiguousAnswer
  have selected : IsTextOf (record [("kind", ofText "selected")])
      "\x7b\"kind\":\"selected\"\x7d" :=
    (spells_chars _ (writable_record (by simp [writable_ofText]))).between
  have lacks : Response.LacksValue (record [("kind", ofText "selected")]) :=
    ⟨_, rfl, rfl, by decide⟩
  obtain ⟨-, answers, -, responses, -, -⟩ := decoding_is_indifferent
  exact ⟨⟨brief, verbose, sameRecord_verboseAnswer,
      answers.alike brief verbose sameRecord_verboseAnswer, verbose.decodeText? _⟩,
    ⟨ambiguous, flawedRecord_ambiguousAnswer,
      answers.flawed ambiguous flawedRecord_ambiguousAnswer⟩,
    selected, lacks, responses _ _ selected lacks⟩

/-- A member whose name is half of a surrogate pair does matter. -/
theorem unpaired_name_matters :
    IsTextOf (record [("kind", ofText "skip")]) "\x7b\"kind\":\"skip\"\x7d" ∧
    IsTextOf (.object [(some "kind", ofText "skip"), (none, ofNat 0)])
      "\x7b\"kind\":\"skip\",\"\\ud800\":0\x7d" ∧
    (∀ field ∈ Response.fields, membersNamed field.name [(some "kind", ofText "skip")] =
      membersNamed field.name [(some "kind", ofText "skip"), (none, ofNat 0)]) ∧
    decodeText? Response.ofJson? "\x7b\"kind\":\"skip\"\x7d" = some .skip ∧
    decodeText? Response.ofJson? "\x7b\"kind\":\"skip\",\"\\ud800\":0\x7d" = none := by
  have known : IsTextOf (record [("kind", ofText "skip")]) "\x7b\"kind\":\"skip\"\x7d" :=
    (spells_chars _ (writable_record (by simp [writable_ofText]))).between
  have kind : SpellsMember (some "kind", ofText "skip") "\"kind\":\"skip\"".toList :=
    (spells_chars _ (writable_ofText "skip")).between.member "kind"
  have half : SpellsPiece (.unit 0xd800) "\\ud800".toList := .unit rfl
  have unpaired : SpellsMember (none, ofNat 0) "\"\\ud800\":0".toList :=
    .pair isGaps_nil ⟨[.unit 0xd800], ["\\ud800".toList], .cons half .nil, rfl, rfl⟩ isGaps_nil
      (spells_chars _ (writable_ofNat 0)).between
  have both : IsTextOf (.object [(some "kind", ofText "skip"), (none, ofNat 0)])
      "\x7b\"kind\":\"skip\",\"\\ud800\":0\x7d" :=
    (Spells.members (.more kind (.last unpaired))).between
  refine ⟨known, both, fun field isField => ?_, known.decodeText? _, both.decodeText? _⟩
  simp only [Response.fields, List.mem_cons, List.not_mem_nil, or_false] at isField
  rcases isField with rfl | rfl <;> rfl

end JsonValue

end OperatorDesk
