/-
This file states when two records say the same and when a record says nothing, and shows which
parts they have then. Records are looked at from outside: what counts is the values that are given
to each known member, not the order of the members nor those with other names. Parts of records
that say the same are related one by one, with what stands for a missing one in its place.
-/

import Mathlib.Data.List.Forall2
import Mathlib.Data.List.Nodup
import Mathlib.Data.Option.Basic
import OperatorDesk.Proofs.JsonValue.Records

namespace OperatorDesk.JsonValue

/-- The members of an object in the order in which they are written. -/
abbrev Members := List (Option String × JsonValue)

/-! ### Known members -/

/-- Which values say the same and which say nothing. -/
structure Shape where
  Same : JsonValue → JsonValue → Prop
  Flawed : JsonValue → Prop
  same_self : ∀ value, Same value value

/-- A value that is no record says what it is. -/
def Shape.plain : Shape where
  Same := Eq
  Flawed _ := False
  same_self _ := rfl

/-- Whether a member has to be given. -/
inductive Presence where
  | required
  /-- It need not be given. -/
  | optional
  /-- It need not be given and stands for this value then. -/
  | defaulted (value : JsonValue)

/-- A known member of a record. -/
structure Field where
  name : String
  presence : Presence
  shape : Shape

namespace Field

/-- A member that has to be given. -/
def needed (name : String) (shape : Shape) : Field :=
  { name, presence := .required, shape }

/-- A member for which a value stands when it is missing. -/
def standing (name : String) (value : JsonValue) (shape : Shape) : Field :=
  { name, presence := .defaulted value, shape }

variable (field : Field)

/-- What a missing member stands for. -/
def otherwise : Option JsonValue :=
  match field.presence with
  | .defaulted value => some value
  | _ => none

/-- The values that an object has for the member, with what stands for a missing one. -/
def given (members : Members) : List JsonValue :=
  match membersNamed field.name members with
  | [] => field.otherwise.toList
  | values => values

/-- Two objects have the same values for the member, in some order. -/
def SameGiven (left right : Members) : Prop :=
  ∃ values, values.Perm (field.given right) ∧
    List.Forall₂ field.shape.Same (field.given left) values

/-- The parts of two records say the same of the member. -/
def SamePart (left right : Option JsonValue) : Prop :=
  Option.Rel field.shape.Same (left.or field.otherwise) (right.or field.otherwise)

/-- The part of a record says nothing of the member, though it has to. -/
def FlawedPart : Option JsonValue → Prop
  | some value => field.shape.Flawed value
  | none => field.presence = .required

end Field

/-! ### Records -/

/-- The items of two arrays say the same of the known members in their order. -/
inductive SameItems : List Field → List JsonValue → List JsonValue → Prop where
  | nil (fields : List Field) : SameItems fields [] []
  | cons {field : Field} {fields : List Field} {left right : JsonValue}
      {lefts rights : List JsonValue} (first : field.shape.Same left right)
      (others : SameItems fields lefts rights) :
      SameItems (field :: fields) (left :: lefts) (right :: rights)

/-- Two values say the same of the known members. Their objects may differ in the order of the
members, in members of other names and in members that stand for themselves when missing. -/
inductive SameRecord (fields : List Field) : JsonValue → JsonValue → Prop where
  | self (value : JsonValue) : SameRecord fields value value
  | objects {left right : Members}
      (named : (∀ member ∈ left, member.1.isSome) ↔ ∀ member ∈ right, member.1.isSome)
      (known : ∀ field ∈ fields, field.SameGiven left right) :
      SameRecord fields (.object left) (.object right)
  | arrays {left right : List JsonValue} (items : SameItems fields left right) :
      SameRecord fields (.array left) (.array right)

/-- An item of an array says nothing of the known member in its place. -/
inductive FlawedItems : List Field → List JsonValue → Prop where
  | here {field : Field} {fields : List Field} {item : JsonValue} {items : List JsonValue}
      (flawed : field.shape.Flawed item) : FlawedItems (field :: fields) (item :: items)
  | later {field : Field} {fields : List Field} {item : JsonValue} {items : List JsonValue}
      (flawed : FlawedItems fields items) : FlawedItems (field :: fields) (item :: items)

/-- A value is no record of the known members: one of them is given twice, or is missing though it
is required, or its value is no record in turn, or the name of some member is no text. -/
inductive FlawedRecord (fields : List Field) : JsonValue → Prop where
  | twice {members : Members} {field : Field} (known : field ∈ fields)
      (more : 2 ≤ (membersNamed field.name members).length) : FlawedRecord fields (.object members)
  | missing {members : Members} {field : Field} (known : field ∈ fields)
      (required : field.presence = .required) (none : membersNamed field.name members = []) :
      FlawedRecord fields (.object members)
  | within {members : Members} {field : Field} {value : JsonValue} (known : field ∈ fields)
      (only : membersNamed field.name members = [value]) (flawed : field.shape.Flawed value) :
      FlawedRecord fields (.object members)
  | unnamed {members : Members} {value : JsonValue} (member : (none, value) ∈ members) :
      FlawedRecord fields (.object members)
  | items {items : List JsonValue} (flawed : FlawedItems fields items) :
      FlawedRecord fields (.array items)

/-- The shape of a record of these members. -/
def Shape.record (fields : List Field) : Shape where
  Same := SameRecord fields
  Flawed := FlawedRecord fields
  same_self := .self

/-! ### Their parts -/

/-- The parts of two records say the same of each member. -/
inductive SameParts : List Field → List (Option JsonValue) → List (Option JsonValue) → Prop where
  | nil : SameParts [] [] []
  | cons {field : Field} {fields : List Field} {left right : Option JsonValue}
      {lefts rights : List (Option JsonValue)} (first : field.SamePart left right)
      (others : SameParts fields lefts rights) :
      SameParts (field :: fields) (left :: lefts) (right :: rights)

/-- A part of a record says nothing of its member, though it has to. -/
inductive FlawedParts : List Field → List (Option JsonValue) → Prop where
  | here {field : Field} {fields : List Field} {part : Option JsonValue}
      {parts : List (Option JsonValue)} (flawed : field.FlawedPart part) :
      FlawedParts (field :: fields) (part :: parts)
  | later {field : Field} {fields : List Field} {part : Option JsonValue}
      {parts : List (Option JsonValue)} (flawed : FlawedParts fields parts) :
      FlawedParts (field :: fields) (part :: parts)

/-- The names of the members. -/
def fieldNames (fields : List Field) : List String :=
  fields.map (·.name)

namespace Field

variable {field : Field} {members left right : Members}

theorem given_of_some {part : Option JsonValue}
    (only : atMostOne? (membersNamed field.name members) = some part) :
    field.given members = (part.or field.otherwise).toList := by
  unfold given
  generalize membersNamed field.name members = values at only
  match values with
  | [] => cases only; rfl
  | [value] => cases only; rfl
  | _ :: _ :: _ => cases only

theorem two_le_length_given
    (more : atMostOne? (membersNamed field.name members) = none) :
    2 ≤ (field.given members).length := by
  unfold given
  generalize membersNamed field.name members = values at more
  match values with
  | [] => cases more
  | [_] => cases more
  | _ :: _ :: others => exact Nat.le_add_left 2 others.length

theorem SameGiven.length_eq (same : field.SameGiven left right) :
    (field.given left).length = (field.given right).length := by
  obtain ⟨values, reordered, alike⟩ := same
  rw [alike.length_eq, reordered.length_eq]

theorem samePart_of_toList {first second : Option JsonValue} {values : List JsonValue}
    (reordered : values.Perm (second.or field.otherwise).toList)
    (alike : List.Forall₂ field.shape.Same (first.or field.otherwise).toList values) :
    field.SamePart first second := by
  unfold SamePart
  cases before : second.or field.otherwise with
  | none =>
    rw [before, Option.toList_none] at reordered
    rw [reordered.eq_nil] at alike
    cases after : first.or field.otherwise with
    | none => exact .none
    | some value =>
      rw [after] at alike
      cases alike
  | some value =>
    rw [before, Option.toList_some] at reordered
    rw [reordered.eq_singleton] at alike
    cases after : first.or field.otherwise with
    | none =>
      rw [after] at alike
      cases alike
    | some other =>
      rw [after, Option.toList_some, List.forall₂_cons] at alike
      exact .some alike.1

/-- A member that is given once on one side is given once on the other. -/
theorem SameGiven.atMostOne? (same : field.SameGiven left right) :
    Option.Rel field.SamePart (atMostOne? (membersNamed field.name left))
      (atMostOne? (membersNamed field.name right)) := by
  have lengths := same.length_eq
  have short (part : Option JsonValue) : part.toList.length ≤ 1 := by cases part <;> simp
  cases isLeft : JsonValue.atMostOne? (membersNamed field.name left) with
  | none =>
    have more := two_le_length_given isLeft
    cases isRight : JsonValue.atMostOne? (membersNamed field.name right) with
    | none => exact .none
    | some part =>
      have atMost := short (part.or field.otherwise)
      rw [given_of_some isRight] at lengths
      omega
  | some part =>
    cases isRight : JsonValue.atMostOne? (membersNamed field.name right) with
    | none =>
      have more := two_le_length_given isRight
      have atMost := short (part.or field.otherwise)
      rw [given_of_some isLeft] at lengths
      omega
    | some other =>
      obtain ⟨values, reordered, alike⟩ := same
      rw [given_of_some isRight] at reordered
      rw [given_of_some isLeft] at alike
      exact .some (samePart_of_toList reordered alike)

theorem sameGiven_self (field : Field) (members : Members) : field.SameGiven members members :=
  ⟨field.given members, .refl _, List.forall₂_same.mpr fun value _ => field.shape.same_self value⟩

theorem sameGiven_of_given {first second : JsonValue} (isLeft : field.given left = [first])
    (isRight : field.given right = [second]) (same : field.shape.Same first second) :
    field.SameGiven left right := by
  refine ⟨[second], by rw [isRight], ?_⟩
  rw [isLeft]
  exact .cons same .nil

theorem samePart_self (part : Option JsonValue) : field.SamePart part part := by
  unfold SamePart
  cases part.or field.otherwise with
  | none => exact .none
  | some value => exact .some (field.shape.same_self value)

end Field

variable {fields : List Field}

theorem sameParts_self {parts : List (Option JsonValue)} (same : parts.length = fields.length) :
    SameParts fields parts parts := by
  induction fields generalizing parts with
  | nil =>
    rw [List.length_eq_zero_iff.mp same]
    exact .nil
  | cons field fields inductionHypothesis =>
    obtain ⟨part, parts, rfl⟩ := List.exists_cons_of_length_eq_add_one same
    exact .cons (Field.samePart_self part) (inductionHypothesis (Nat.succ.inj same))

/-- The parts of an array: its items and nothing for the members after them. -/
def itemParts (fields : List Field) (items : List JsonValue) : List (Option JsonValue) :=
  items.map some ++ List.replicate (fields.length - items.length) none

theorem itemParts_cons (field : Field) (item : JsonValue) (items : List JsonValue) :
    itemParts (field :: fields) (item :: items) = some item :: itemParts fields items := by
  rw [itemParts, List.length_cons, List.length_cons, Nat.add_sub_add_right]
  rfl

theorem parts?_array {items : List JsonValue} (fits : items.length ≤ fields.length) :
    parts? (fieldNames fields) (.array items) = some (itemParts fields items) := by
  have fits : items.length ≤ (fieldNames fields).length := by rwa [fieldNames, List.length_map]
  have parts : parts? (fieldNames fields) (.array items) =
      some (items.map some ++ List.replicate ((fieldNames fields).length - items.length) none) :=
    if_pos fits
  rw [parts, itemParts, fieldNames, List.length_map]

theorem parts?_long {items : List JsonValue} (long : ¬items.length ≤ fields.length) :
    parts? (fieldNames fields) (.array items) = none := by
  refine if_neg ?_
  rwa [fieldNames, List.length_map]

theorem SameItems.length_eq {left right : List JsonValue} (same : SameItems fields left right) :
    left.length = right.length ∧ right.length ≤ fields.length := by
  induction same with
  | nil fields => exact ⟨rfl, Nat.zero_le _⟩
  | cons _ _ inductionHypothesis => simpa using inductionHypothesis

theorem SameItems.sameParts {left right : List JsonValue} (same : SameItems fields left right) :
    SameParts fields (itemParts fields left) (itemParts fields right) := by
  induction same with
  | nil fields => exact sameParts_self (by simp [itemParts])
  | @cons field fields left right lefts rights first others inductionHypothesis =>
    have part : field.SamePart (some left) (some right) := .some first
    rw [itemParts_cons, itemParts_cons]
    exact .cons part inductionHypothesis

theorem sameParts_mapM {left right : Members}
    (known : ∀ field ∈ fields, field.SameGiven left right) :
    Option.Rel (SameParts fields)
      (fields.mapM fun field => atMostOne? (membersNamed field.name left))
      (fields.mapM fun field => atMostOne? (membersNamed field.name right)) := by
  induction fields with
  | nil => exact .some .nil
  | cons field fields inductionHypothesis =>
    have first := (known field List.mem_cons_self).atMostOne?
    have others := inductionHypothesis fun other member => known other (.tail field member)
    rw [List.mapM_cons, List.mapM_cons]
    generalize atMostOne? (membersNamed field.name left) = leftPart at first ⊢
    generalize atMostOne? (membersNamed field.name right) = rightPart at first ⊢
    generalize (fields.mapM fun field => atMostOne? (membersNamed field.name left)) = lefts
      at others ⊢
    generalize (fields.mapM fun field => atMostOne? (membersNamed field.name right)) = rights
      at others ⊢
    cases first with
    | none => exact .none
    | some part =>
      cases others with
      | none => exact .none
      | some parts => exact .some (.cons part parts)

/-- The parts of an object whose names are texts. -/
theorem parts?_object {members : Members} (named : ∀ member ∈ members, member.1.isSome) :
    parts? (fieldNames fields) (.object members) =
      fields.mapM fun field => atMostOne? (membersNamed field.name members) := by
  have parts : parts? (fieldNames fields) (.object members) =
      (fieldNames fields).mapM fun name => atMostOne? (membersNamed name members) :=
    if_pos (List.all_eq_true.mpr named)
  rw [parts, fieldNames, List.mapM_map]
  rfl

theorem parts?_unnamed {members : Members} (unnamed : ¬∀ member ∈ members, member.1.isSome)
    (names : List String) : parts? names (.object members) = none :=
  if_neg fun named => unnamed (List.all_eq_true.mp named)

theorem sameParts_objects {left right : Members}
    (named : (∀ member ∈ left, member.1.isSome) ↔ ∀ member ∈ right, member.1.isSome)
    (known : ∀ field ∈ fields, field.SameGiven left right) :
    Option.Rel (SameParts fields) (parts? (fieldNames fields) (.object left))
      (parts? (fieldNames fields) (.object right)) := by
  by_cases isNamed : ∀ member ∈ left, member.1.isSome
  · rw [parts?_object isNamed, parts?_object (named.mp isNamed)]
    exact sameParts_mapM known
  · rw [parts?_unnamed isNamed, parts?_unnamed (mt named.mpr isNamed)]
    exact .none

theorem sameParts_self_array (items : List JsonValue) :
    Option.Rel (SameParts fields) (parts? (fieldNames fields) (.array items))
      (parts? (fieldNames fields) (.array items)) := by
  by_cases fits : items.length ≤ fields.length
  · rw [parts?_array fits]
    refine .some (sameParts_self ?_)
    rw [itemParts, List.length_append, List.length_map, List.length_replicate]
    omega
  · rw [parts?_long fits]
    exact .none

/-- Records that say the same have parts that do, or none at all. -/
theorem SameRecord.sameParts {left right : JsonValue} (same : SameRecord fields left right) :
    Option.Rel (SameParts fields) (left.parts? (fieldNames fields))
      (right.parts? (fieldNames fields)) := by
  cases same with
  | self =>
    cases left with
    | object members => exact sameParts_objects Iff.rfl fun field _ => field.sameGiven_self members
    | array items => exact sameParts_self_array items
    | _ => exact .none
  | objects named known => exact sameParts_objects named known
  | arrays items =>
    obtain ⟨lengths, fits⟩ := items.length_eq
    rw [parts?_array (lengths ▸ fits), parts?_array fits]
    exact .some items.sameParts

/-! ### Flawed records -/

theorem flawedParts_of_mapM {members : Members} {field : Field} {parts : List (Option JsonValue)}
    (known : field ∈ fields)
    (flawed : ∀ part ∈ atMostOne? (membersNamed field.name members), field.FlawedPart part)
    (given : (fields.mapM fun field => atMostOne? (membersNamed field.name members)) =
      some parts) : FlawedParts fields parts := by
  induction fields generalizing parts with
  | nil => cases known
  | cons first fields inductionHypothesis =>
    rw [List.mapM_cons] at given
    obtain ⟨part, isPart, given⟩ := Option.bind_eq_some_iff.mp given
    obtain ⟨others, areOthers, given⟩ := Option.bind_eq_some_iff.mp given
    cases given
    cases known with
    | head => exact .here (flawed part isPart)
    | tail _ known => exact .later (inductionHypothesis known areOthers)

theorem FlawedItems.flawedParts {items : List JsonValue} (flawed : FlawedItems fields items) :
    FlawedParts fields (itemParts fields items) := by
  induction flawed with
  | here flawed => exact .here flawed
  | later _ inductionHypothesis =>
    rw [itemParts_cons]
    exact .later inductionHypothesis

/-- If a flawed record has parts at all, one of them is flawed. -/
theorem FlawedRecord.flawedParts {value : JsonValue} {parts : List (Option JsonValue)}
    (flawed : FlawedRecord fields value) (given : value.parts? (fieldNames fields) = some parts) :
    FlawedParts fields parts := by
  have named {members : Members}
      (given : parts? (fieldNames fields) (.object members) = some parts) :
      (fields.mapM fun field => atMostOne? (membersNamed field.name members)) = some parts := by
    by_cases isNamed : ∀ member ∈ members, member.1.isSome
    · rwa [parts?_object isNamed] at given
    · rw [parts?_unnamed isNamed] at given
      cases given
  cases flawed with
  | @twice members field known more =>
    refine flawedParts_of_mapM known (fun part isPart => ?_) (named given)
    match membersNamed field.name members, more, isPart with
    | _ :: _ :: _, _, isPart => cases isPart
  | missing known required isMissing =>
    refine flawedParts_of_mapM known (fun part isPart => ?_) (named given)
    rw [isMissing] at isPart
    cases isPart
    exact required
  | within known only flawed =>
    refine flawedParts_of_mapM known (fun part isPart => ?_) (named given)
    rw [only] at isPart
    cases isPart
    exact flawed
  | unnamed member =>
    rw [parts?_unnamed fun named => Bool.false_ne_true (named _ member)] at given
    cases given
  | @items items flawed =>
    by_cases fits : items.length ≤ fields.length
    · rw [parts?_array fits] at given
      cases given
      exact flawed.flawedParts
    · rw [parts?_long fits] at given
      cases given

/-! ### Objects that say the same -/

theorem Field.given_perm {left right : Members} (field : Field) (reordered : left.Perm right) :
    (field.given left).Perm (field.given right) := by
  have values : (membersNamed field.name left).Perm (membersNamed field.name right) :=
    (reordered.filter _).map _
  unfold given
  split
  · next isEmpty =>
    rw [isEmpty] at values
    rw [values.symm.eq_nil]
  · next notEmpty =>
    split
    · next isEmpty =>
      rw [isEmpty] at values
      exact absurd values.eq_nil notEmpty
    · exact values

/-- The order of the members says nothing. -/
theorem SameRecord.of_perm {left right : Members} (reordered : left.Perm right) :
    SameRecord fields (.object left) (.object right) := by
  refine .objects (by simp only [reordered.mem_iff]) fun field _ =>
    ⟨field.given left, field.given_perm reordered, ?_⟩
  exact List.forall₂_same.mpr fun value _ => field.shape.same_self value

/-- The member is one of the known members. -/
def isKnown (fields : List Field) (member : Option String × JsonValue) : Bool :=
  fields.any fun field => member.1 == some field.name

theorem membersNamed_filter_isKnown {field : Field} (known : field ∈ fields) (members : Members) :
    membersNamed field.name (members.filter (isKnown fields)) =
      membersNamed field.name members := by
  unfold membersNamed
  rw [List.filter_filter]
  congr 1
  refine List.filter_congr fun member _ => ?_
  cases isField : member.1 == some field.name with
  | false => rfl
  | true => exact List.any_eq_true.mpr ⟨field, known, isField⟩

/-- Members of other names say nothing, as long as their names are texts. -/
theorem SameRecord.of_filter {members : Members} (named : ∀ member ∈ members, member.1.isSome) :
    SameRecord fields (.object (members.filter (isKnown fields))) (.object members) := by
  refine .objects ⟨fun _ => named, fun _ member isMember => ?_⟩ fun field known => ?_
  · exact named member (List.mem_of_mem_filter isMember)
  have same : field.given (members.filter (isKnown fields)) = field.given members := by
    rw [Field.given, membersNamed_filter_isKnown known, Field.given]
  rw [Field.SameGiven, same]
  exact field.sameGiven_self members

theorem membersNamed_cons_self (name : String) (value : JsonValue) (members : Members) :
    membersNamed name ((some name, value) :: members) = value :: membersNamed name members := by
  simp [membersNamed]

/-- A member that is missing says the same as the value that it stands for, wherever that is
given. -/
theorem SameRecord.of_default {field : Field} {value : JsonValue} {before after : Members}
    (distinct : (fieldNames fields).Nodup) (known : field ∈ fields)
    (stands : field.presence = .defaulted value)
    (isMissing : membersNamed field.name (before ++ after) = []) :
    SameRecord fields (.object (before ++ after))
      (.object (before ++ (some field.name, value) :: after)) := by
  refine .objects (by simp [or_imp, forall_and]) fun other isField => ?_
  have same : other.given (before ++ after) =
      other.given (before ++ (some field.name, value) :: after) := by
    by_cases isSame : other.name = field.name
    · obtain rfl : other = field := List.inj_on_of_nodup_map distinct isField known isSame
      rw [membersNamed_append] at isMissing
      obtain ⟨noBefore, noAfter⟩ := List.append_eq_nil_iff.mp isMissing
      rw [Field.given, Field.given, membersNamed_append, membersNamed_append,
        membersNamed_cons_self, noBefore, noAfter, Field.otherwise, stands]
      rfl
    · have skipped : membersNamed other.name (before ++ (some field.name, value) :: after) =
          membersNamed other.name (before ++ after) := by
        simp [membersNamed, Ne.symm isSame]
      rw [Field.given, Field.given, skipped]
  rw [Field.SameGiven, ← same]
  exact other.sameGiven_self _

end OperatorDesk.JsonValue
