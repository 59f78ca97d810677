/-
This file shows that a JSON value is written after the grammar, without gaps, so that it is read
back as it was written. The induction is on the value.
-/

import OperatorDesk.Proofs.JsonValue.Quoting

namespace OperatorDesk.JsonValue

/-! ### What can be written -/

mutual

/-- The value can be written: its numbers are natural and its strings have content. -/
def Writable : JsonValue → Prop
  | .null => True
  | .bool _ => True
  | .number literal => ∃ number, literal = Nat.toDigits 10 number
  | .string content => content.isSome = true
  | .array items => WritableItems items
  | .object members => WritableMembers members

/-- All items can be written. -/
def WritableItems : List JsonValue → Prop
  | [] => True
  | item :: items => Writable item ∧ WritableItems items

/-- All members can be written. -/
def WritableMembers : List (Option String × JsonValue) → Prop
  | [] => True
  | (name, value) :: members => name.isSome = true ∧ Writable value ∧ WritableMembers members

end

/-! ### How it is written -/

/-- No zero stands at the front of the digits that a number is written with, except alone. -/
theorem isNumber_toDigits (number : Nat) : IsNumber (Nat.toDigits 10 number) := by
  have isDigit : ∀ c ∈ Nat.toDigits 10 number, c.isDigit = true :=
    fun _ => Nat.isDigit_of_mem_toDigits (by decide) (by decide)
  have isWhole : IsWhole (Nat.toDigits 10 number) := by
    refine ⟨⟨Nat.toDigits_ne_nil, isDigit⟩, fun c left begins => ?_⟩
    rcases Nat.eq_zero_or_pos number with rfl | positive
    · cases begins
    · exact Text.head?_toDigits_ne_zero positive (congrArg List.head? begins)
  exact .inl ⟨_, [], [], isWhole, .absent, .absent, by simp only [List.append_nil]⟩

theorem isGaps_nil : IsGaps [] := nofun

theorem Spells.between {value : JsonValue} {chars : List Char} (spelled : Spells value chars) :
    SpellsBetween value chars := by
  have between := SpellsBetween.gaps isGaps_nil spelled isGaps_nil
  rwa [List.append_nil] at between

theorem SpellsBetween.member {value : JsonValue} {chars : List Char}
    (spelled : SpellsBetween value chars) (name : String) :
    SpellsMember (some name, value) (contentChars (some name) ++ ':' :: chars) :=
  .pair isGaps_nil (spellsString_contentChars name) isGaps_nil spelled

mutual

theorem spells_chars (value : JsonValue) (writable : Writable value) :
    Spells value value.chars := by
  match value, writable with
  | .null, _ => exact .null
  | .bool true, _ => exact .yes
  | .bool false, _ => exact .no
  | .number _, ⟨digits, rfl⟩ => exact .number (isNumber_toDigits digits)
  | .string (some content), _ => exact .string (spellsString_contentChars content)
  | .array [], _ => exact .noItems isGaps_nil
  | .array (item :: items), writable =>
    obtain ⟨chars, spelled, written⟩ :=
      spellsItems_chars (item :: items) writable (List.cons_ne_nil _ _)
    rw [JsonValue.chars, (List.cons.inj written).2]
    exact .items spelled
  | .object [], _ => exact .noMembers isGaps_nil
  | .object (member :: members), writable =>
    obtain ⟨chars, spelled, written⟩ :=
      spellsMembers_chars (member :: members) writable (List.cons_ne_nil _ _)
    rw [JsonValue.chars, (List.cons.inj written).2]
    exact .members spelled

/-- A comma stands before the first item as before every other one. -/
theorem spellsItems_chars (items : List JsonValue) (writable : WritableItems items)
    (some : items ≠ []) :
    ∃ chars, SpellsItems items chars ∧ itemChars items = ',' :: (chars ++ [']']) := by
  match items, writable, some with
  | [item], writable, _ => exact ⟨_, .last (spells_chars item writable.1).between, rfl⟩
  | item :: next :: items, writable, _ =>
    obtain ⟨others, spelled, written⟩ :=
      spellsItems_chars (next :: items) writable.2 (List.cons_ne_nil _ _)
    refine ⟨_, .more (spells_chars item writable.1).between spelled, ?_⟩
    rw [itemChars, written, List.append_assoc, List.cons_append]

theorem spellsMembers_chars (members : List (Option String × JsonValue))
    (writable : WritableMembers members) (some : members ≠ []) :
    ∃ chars, SpellsMembers members chars ∧ memberChars members = ',' :: (chars ++ ['}']) := by
  match members, writable, some with
  | [(.some name, value)], writable, _ =>
    refine ⟨_, .last ((spells_chars value writable.2.1).between.member name), ?_⟩
    rw [memberChars, memberChars, List.append_assoc, List.cons_append]
  | (.some name, value) :: next :: members, writable, _ =>
    obtain ⟨others, spelled, written⟩ :=
      spellsMembers_chars (next :: members) writable.2.2 (List.cons_ne_nil _ _)
    refine ⟨_, .more ((spells_chars value writable.2.1).between.member name) spelled, ?_⟩
    rw [memberChars, written]
    simp only [List.append_assoc, List.cons_append]

end

theorem isTextOf_text {value : JsonValue} (writable : Writable value) :
    IsTextOf value value.text := by
  rw [IsTextOf, text, String.toList_ofList]
  exact (spells_chars value writable).between

/-- A value that can be written is read back as it was written. -/
theorem ofText?_text {value : JsonValue} (writable : Writable value) :
    ofText? value.text = some value :=
  (isTextOf_text writable).ofText?

end OperatorDesk.JsonValue
