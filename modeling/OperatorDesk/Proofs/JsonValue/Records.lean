/-
This file shows that a record is taken apart into the parts that it was put together from, if their
names are distinct. The induction is on the names; the members that were put in before the current
name are carried along, and none of them has a name that is still to come.
-/

import OperatorDesk.Proofs.JsonValue.Writing

namespace OperatorDesk.JsonValue

/-! ### Parts -/

/-- The members of the parts that are given. -/
def givenMembers : List String → List (Option JsonValue) → List (String × JsonValue)
  | name :: names, part :: parts => part.toList.map (name, ·) ++ givenMembers names parts
  | _, _ => []

theorem name_mem_of_mem_givenMembers {names : List String} {parts : List (Option JsonValue)}
    {member : String × JsonValue} (given : member ∈ givenMembers names parts) :
    member.1 ∈ names := by
  fun_induction givenMembers names parts with
  | case1 name names part parts inductionHypothesis =>
    rcases List.mem_append.mp given with first | later
    · obtain ⟨value, -, rfl⟩ := List.mem_map.mp first
      exact List.mem_cons_self
    · exact List.mem_cons_of_mem _ (inductionHypothesis later)
  | case2 => cases given

/-- The members of a record as an object has them. -/
def named (members : List (String × JsonValue)) : List (Option String × JsonValue) :=
  members.map fun (name, value) => (some name, value)

theorem membersNamed_append (name : String) (first second : List (Option String × JsonValue)) :
    membersNamed name (first ++ second) = membersNamed name first ++ membersNamed name second := by
  simp only [membersNamed, List.filter_append, List.map_append]

theorem membersNamed_named_append (name : String) (first second : List (String × JsonValue)) :
    membersNamed name (named (first ++ second)) =
      membersNamed name (named first) ++ membersNamed name (named second) := by
  rw [named, List.map_append, membersNamed_append, named, named]

theorem membersNamed_eq_nil {name : String} {members : List (String × JsonValue)}
    (other : ∀ member ∈ members, member.1 ≠ name) : membersNamed name (named members) = [] := by
  have noMember : (named members).filter (·.1 == some name) = [] := by
    rw [List.filter_eq_nil_iff]
    intro member among
    obtain ⟨source, isMember, rfl⟩ := List.mem_map.mp among
    simpa only [beq_iff_eq, Option.some_inj] using other source isMember
  rw [membersNamed, noMember, List.map_nil]

theorem membersNamed_self (name : String) (part : Option JsonValue) :
    membersNamed name (named (part.toList.map (name, ·))) = part.toList := by
  cases part with
  | none => rfl
  | some value => simp [membersNamed, named]

theorem atMostOne?_toList (part : Option JsonValue) : atMostOne? part.toList = some part := by
  cases part <;> rfl

theorem mapM_atMostOne?_givenMembers {names : List String} (parts : List (Option JsonValue))
    (before : List (String × JsonValue)) (distinct : names.Nodup)
    (same : parts.length = names.length) (apart : ∀ member ∈ before, member.1 ∉ names) :
    (names.mapM fun name =>
      atMostOne? (membersNamed name (named (before ++ givenMembers names parts)))) =
        some parts := by
  induction names generalizing parts before with
  | nil =>
    rw [List.length_eq_zero_iff.mp same]
    rfl
  | cons name names inductionHypothesis =>
    obtain ⟨part, parts, rfl⟩ : ∃ first others, parts = first :: others :=
      List.exists_cons_of_length_eq_add_one same
    obtain ⟨fresh, distinct⟩ := List.nodup_cons.mp distinct
    have noneBefore : membersNamed name (named before) = [] := membersNamed_eq_nil
      fun member isMember isName => apart member isMember (isName ▸ List.mem_cons_self)
    have noneAfter : membersNamed name (named (givenMembers names parts)) = [] :=
      membersNamed_eq_nil
        fun member isMember isName => fresh (isName ▸ name_mem_of_mem_givenMembers isMember)
    have stillApart : ∀ member ∈ before ++ part.toList.map (name, ·), member.1 ∉ names := by
      intro member among
      rcases List.mem_append.mp among with isBefore | isPart
      · exact fun isName => apart member isBefore (List.mem_cons_of_mem _ isName)
      · obtain ⟨value, -, rfl⟩ := List.mem_map.mp isPart
        exact fresh
    have others := inductionHypothesis parts _ distinct (Nat.succ.inj same) stillApart
    rw [List.append_assoc] at others
    rw [givenMembers, List.mapM_cons, others, membersNamed_named_append,
      membersNamed_named_append, noneBefore, noneAfter, membersNamed_self, List.nil_append,
      List.append_nil, atMostOne?_toList]
    rfl

/-- A record that is made of parts with distinct names has these parts. -/
theorem parts?_record {value : JsonValue} {names : List String} {parts : List (Option JsonValue)}
    (made : value = record (givenMembers names parts)) (distinct : names.Nodup)
    (same : parts.length = names.length) : parts? names value = some parts := by
  have allNamed : (named (givenMembers names parts)).all (·.1.isSome) = true := by
    simp only [named, List.all_map, Function.comp_def, Option.isSome_some, List.all_eq_true,
      implies_true]
  have values := mapM_atMostOne?_givenMembers parts [] distinct same nofun
  rw [made]
  exact (if_pos allNamed).trans values

/-! ### What records are made of -/

theorem writable_ofText (text : String) : Writable (ofText text) := rfl

theorem writable_ofNat (number : Nat) : Writable (ofNat number) := ⟨number, rfl⟩

theorem writable_null : Writable .null := trivial

theorem writable_bool (value : Bool) : Writable (.bool value) := trivial

theorem writable_ofTexts (texts : List String) : Writable (ofTexts texts) := by
  show WritableItems (texts.map ofText)
  induction texts with
  | nil => trivial
  | cons text texts inductionHypothesis => exact ⟨writable_ofText text, inductionHypothesis⟩

theorem writable_record {members : List (String × JsonValue)}
    (writable : ∀ member ∈ members, Writable member.2) : Writable (record members) := by
  show WritableMembers (named members)
  induction members with
  | nil => trivial
  | cons member members inductionHypothesis =>
    exact ⟨rfl, writable member List.mem_cons_self,
      inductionHypothesis fun other isMember => writable other (.tail member isMember)⟩

theorem text?_ofText (text : String) : text? (ofText text) = some text := rfl

theorem texts?_ofTexts (texts : List String) : texts? (ofTexts texts) = some texts := by
  show (texts.map ofText).mapM text? = some texts
  induction texts with
  | nil => rfl
  | cons text texts inductionHypothesis =>
    rw [List.map_cons, List.mapM_cons, inductionHypothesis]
    rfl

theorem nat?_ofNat {limit number : Nat} (fits : number ≤ limit) :
    nat? limit (ofNat number) = some number := by
  have digits : (Nat.toDigits 10 number).all Char.isDigit = true :=
    List.all_eq_true.mpr fun _ => Nat.isDigit_of_mem_toDigits (by decide) (by decide)
  have value := Text.valueOfDigits_toDigits number
  simp only [nat?, ofNat, digits, value, fits, decide_true, Bool.and_self, if_true]

/-- A text that may be missing. -/
theorem given?_ofText (text : Option String) :
    given? none (orNull? text?) (text.map ofText) = some text := by
  cases text <;> rfl

/-- A number for which null stands if it is missing. -/
theorem orNull?_ofNat {limit : Nat} {number : Option Nat} (fits : ∀ value ∈ number, value ≤ limit) :
    orNull? (nat? limit) (number.elim .null ofNat) = some number := by
  cases number with
  | none => rfl
  | some value =>
    show (nat? limit (ofNat value)).map some = _
    rw [nat?_ofNat (fits value rfl)]
    rfl

theorem nat?_le {limit number : Nat} {value : JsonValue} (reads : nat? limit value = some number) :
    number ≤ limit := by
  cases value with
  | number literal =>
    simp only [nat?] at reads
    split at reads
    · next fits =>
      obtain rfl := Option.some_inj.mp reads
      exact of_decide_eq_true (Bool.and_eq_true_iff.mp fits).2
    · cases reads
  | _ => cases reads

theorem orNull?_le {limit : Nat} {number : Option Nat} {value : JsonValue}
    (reads : orNull? (nat? limit) value = some number) : ∀ count ∈ number, count ≤ limit := by
  unfold orNull? at reads
  split at reads
  · cases reads
    nofun
  · obtain ⟨count, read, rfl⟩ := Option.map_eq_some_iff.mp reads
    rintro _ ⟨⟩
    exact nat?_le read

theorem required?_some {Value : Type} (decode : JsonValue → Option Value) (value : JsonValue) :
    required? decode (some value) = decode value := rfl

theorem given?_some {Value : Type} (otherwise : Value) (decode : JsonValue → Option Value)
    (value : JsonValue) : given? otherwise decode (some value) = decode value := rfl

/-- What holds of all that is decoded, and of what stands for a missing part, holds of the part. -/
theorem given?_holds {Value : Type} (holds : Value → Prop) {otherwise value : Value}
    {decode : JsonValue → Option Value} {part : Option JsonValue} (missing : holds otherwise)
    (decoded : ∀ {json value}, decode json = some value → holds value)
    (reads : given? otherwise decode part = some value) : holds value := by
  cases part with
  | none => exact Option.some_inj.mp reads ▸ missing
  | some json => exact decoded reads

/-! ### Decoding what was written -/

/-- A value is read back as it was written. -/
def IsKept {Value : Type} (encode : Value → JsonValue) (decode : JsonValue → Option Value)
    (value : Value) : Prop :=
  decodeText? decode (encode value).text = some value

/-- The value of every text that can be read is read back as it is written. -/
def IsStable {Value : Type} (encode : Value → JsonValue) (decode : JsonValue → Option Value) :
    Prop :=
  ∀ text value, decodeText? decode text = some value → IsKept encode decode value

theorem isKept_of_writable {Value : Type} {encode : Value → JsonValue}
    {decode : JsonValue → Option Value} {value : Value} (writable : Writable (encode value))
    (decodes : decode (encode value) = some value) : IsKept encode decode value := by
  rw [IsKept, decodeText?, ofText?_text writable]
  exact decodes

end OperatorDesk.JsonValue
