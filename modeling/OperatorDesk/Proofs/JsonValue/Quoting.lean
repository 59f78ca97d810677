/-
This file shows that strings are written after the grammar. Each character is written as one piece,
which is a code unit only for a control; and pieces of characters are joined to these characters
again, since no control is half of a surrogate pair.
-/

import Mathlib.Data.List.Forall2
import OperatorDesk.JsonValue.Printer
import OperatorDesk.Proofs.JsonValue.Grammar

namespace OperatorDesk.JsonValue

/-! ### One character -/

/-- The piece that a character is written as: its code for a control that has no letter. -/
def Piece.ofChar (c : Char) : Piece :=
  if c.toNat < 0x20 ∧ c ∉ ['\x08', '\x0c', '\n', '\r', '\t'] then .unit c.toNat else .char c

/-- The code of a control is written with two hexadecimal digits after two zeros. -/
theorem unitOf?_control : ∀ code < 0x20,
    unitOf? '0' '0' (hexDigit (code / 16)) (hexDigit (code % 16)) = some code := by
  decide

theorem spellsPiece_escaped (c : Char) : SpellsPiece (.ofChar c) (escaped c) := by
  fun_cases escaped c
  case case8 noQuote noBackslash noB noF noN noR noT isControl =>
    have noLetter : c ∉ ['\x08', '\x0c', '\n', '\r', '\t'] := by
      simp only [List.mem_cons, List.not_mem_nil, or_false, not_or]
      exact ⟨noB, noF, noN, noR, noT⟩
    rw [Piece.ofChar, if_pos ⟨isControl, noLetter⟩]
    exact .unit (unitOf?_control c.toNat isControl)
  case case9 noQuote noBackslash noB noF noN noR noT noControl =>
    rw [Piece.ofChar, if_neg fun isControl => noControl isControl.1]
    exact .plain noQuote noBackslash noControl
  all_goals exact .escape rfl

/-- A code unit that is no half of a pair is a character, whatever follows. -/
theorem joinPieces_unit {code : Nat} (noHigh : isHighHalf code = false)
    (noLow : isLowHalf code = false) (pieces : List Piece) :
    joinPieces (.unit code :: pieces) = (joinPieces pieces).map (Char.ofNat code :: ·) := by
  have alone : (isHighHalf code || isLowHalf code) ≠ true := by
    rw [noHigh, noLow]
    decide
  match pieces with
  | [] => exact if_neg alone
  | .char c :: rest => exact if_neg alone
  | .unit low :: rest => rw [joinPieces, noHigh, noLow, if_neg nofun, if_neg nofun]

theorem joinPieces_ofChar (c : Char) (pieces : List Piece) :
    joinPieces (.ofChar c :: pieces) = (joinPieces pieces).map (c :: ·) := by
  unfold Piece.ofChar
  split
  · next isControl =>
    have below : ∀ code < 0x20, isHighHalf code = false ∧ isLowHalf code = false := by decide
    obtain ⟨noHigh, noLow⟩ := below c.toNat isControl.1
    rw [joinPieces_unit noHigh noLow, Char.ofNat_toNat]
  · rfl

/-! ### Strings -/

theorem joinPieces_map_ofChar (content : List Char) :
    joinPieces (content.map Piece.ofChar) = some content := by
  induction content with
  | nil => rfl
  | cons c content inductionHypothesis =>
    rw [List.map_cons, joinPieces_ofChar, inductionHypothesis]
    rfl

theorem spellsString_contentChars (content : String) :
    SpellsString (some content) (contentChars (some content)) := by
  refine ⟨content.toList.map .ofChar, content.toList.map escaped, ?_, ?_, ?_⟩
  · rw [List.forall₂_map_left_iff, List.forall₂_map_right_iff]
    exact List.forall₂_same.mpr fun c _ => spellsPiece_escaped c
  · rw [joinPieces_map_ofChar, Option.map_some, String.ofList_toList]
  · rw [contentChars, List.flatMap_def, List.cons_append]

end OperatorDesk.JsonValue
