/-
This file says what trimming does to a text. Nothing is left of a text of blanks alone, a second
trimming changes nothing, and a trimmed text has the same words as before.
-/

import Mathlib.Data.List.DropRight
import OperatorDesk.Text.Blank

namespace OperatorDesk.Text

/-! ### Characters -/

theorem trimChars_eq (chars : List Char) :
    trimChars chars = (chars.dropWhile isBlank).rdropWhile isBlank :=
  rfl

theorem trimChars_eq_nil_iff {chars : List Char} :
    trimChars chars = [] ↔ ∀ c ∈ chars, isBlank c = true := by
  rw [trimChars_eq, List.rdropWhile_eq_nil_iff]
  constructor
  · intro blank c member
    rw [← chars.takeWhile_append_dropWhile (p := isBlank), List.mem_append] at member
    rcases member with taken | left
    · exact List.all_eq_true.mp List.all_takeWhile c taken
    · exact blank c left
  · intro blank c member
    exact blank c ((List.dropWhile_suffix isBlank).subset member)

/-- A trimmed text does not begin with a blank: what is cut off at its end leaves its first
character where it is. -/
theorem dropWhile_trimChars (chars : List Char) :
    (trimChars chars).dropWhile isBlank = trimChars chars := by
  have begins : trimChars chars <+: chars.dropWhile isBlank := List.rdropWhile_prefix isBlank _
  refine List.dropWhile_eq_self_iff.mpr fun someLeft => ?_
  have someBefore : 0 < (chars.dropWhile isBlank).length :=
    Nat.lt_of_lt_of_le someLeft begins.length_le
  rw [begins.getElem someLeft]
  exact List.dropWhile_eq_self_iff.mp (List.dropWhile_idempotent isBlank chars) someBefore

theorem trimChars_trimChars (chars : List Char) :
    trimChars (trimChars chars) = trimChars chars := by
  rw [trimChars_eq (trimChars chars), dropWhile_trimChars]
  exact List.rdropWhile_idempotent isBlank _

/-! ### Texts -/

theorem trim_trim (text : String) : trim (trim text) = trim text := by
  rw [trim, trim, String.toList_ofList, trimChars_trimChars]

theorem isEmpty_trim_iff {text : String} :
    (trim text).isEmpty = true ↔ isBlankText text = true := by
  rw [String.isEmpty_iff, trim, String.ofList_eq_empty_iff, trimChars_eq_nil_iff, isBlankText,
    List.all_eq_true]

/-- A text and what trimming leaves of it have the same words. -/
theorem sameWords_trim (text : String) : sameWords text (trim text) = true := by
  rw [sameWords, trim_trim]
  exact beq_self_eq_true _

end OperatorDesk.Text
