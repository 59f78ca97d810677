/-
This file says when two texts are alike: they differ at most in the blanks around them and in the
case of ASCII letters. Trimming both texts and folding their letters tests just this, in whichever
order it is done, since a letter is no blank in either case.
-/

import OperatorDesk.Proofs.Text.Trimming

namespace OperatorDesk.Text

/-- The characters are those of the core with blanks before and after. -/
def Surrounds (chars core : List Char) : Prop :=
  ∃ before after, (∀ c ∈ before, isBlank c = true) ∧ (∀ c ∈ after, isBlank c = true) ∧
    chars = before ++ core ++ after

/-- The two texts differ at most in outer blanks and in the case of ASCII letters. -/
def Alike (left right : String) : Prop :=
  ∃ core other, Surrounds left.toList core ∧ Surrounds right.toList other ∧
    core.map Char.toLower = other.map Char.toLower

/-! ### Outer blanks -/

theorem trimChars_append_blank {after : List Char} (blank : ∀ c ∈ after, isBlank c = true)
    (chars : List Char) : trimChars (chars ++ after) = trimChars chars := by
  by_cases allBlank : ∀ c ∈ chars, isBlank c = true
  · rw [trimChars_eq_nil_iff.mpr allBlank, trimChars_eq_nil_iff]
    exact fun c member => (List.mem_append.mp member).elim (allBlank c) (blank c)
  · have someLeft : (chars.dropWhile isBlank).isEmpty = false := by
      refine Bool.eq_false_iff.mpr fun nothing => allBlank ?_
      exact List.dropWhile_eq_nil_iff.mp (List.isEmpty_iff.mp nothing)
    rw [trimChars, List.dropWhile_append, someLeft, if_neg Bool.false_ne_true, List.reverse_append,
      List.dropWhile_append_of_pos fun c member => blank c (List.mem_reverse.mp member)]
    rfl

theorem Surrounds.trimChars_eq {chars core : List Char} (surrounds : Surrounds chars core) :
    trimChars chars = trimChars core := by
  obtain ⟨before, after, blankBefore, blankAfter, rfl⟩ := surrounds
  rw [trimChars_append_blank blankAfter, trimChars, List.dropWhile_append_of_pos blankBefore]
  rfl

theorem surrounds_trimChars (chars : List Char) : Surrounds chars (trimChars chars) := by
  refine ⟨chars.takeWhile isBlank, (chars.dropWhile isBlank).rtakeWhile isBlank, ?_, ?_, ?_⟩
  · exact List.all_eq_true.mp List.all_takeWhile
  · exact fun c member => List.mem_rtakeWhile_imp member
  · rw [List.append_assoc, Text.trimChars_eq, List.rdropWhile_append_rtakeWhile,
      List.takeWhile_append_dropWhile]

/-! ### Letter case -/

/-- Only the letters from `A` to `Z` change: they move to those from `a` to `z`. -/
theorem toLower_cases (c : Char) :
    c.toLower = c ∨ (65 ≤ c.toNat ∧ c.toNat ≤ 90 ∧ c.toLower.toNat = c.toNat + 32) := by
  unfold Char.toLower
  split
  · next isUpper =>
    have first : 65 ≤ c.toNat := UInt32.le_iff_toNat_le.mp isUpper.1
    have last : c.toNat ≤ 90 := UInt32.le_iff_toNat_le.mp isUpper.2
    have moved : (c.val + ('a'.val - 'A'.val)).toNat = c.toNat + 32 := by
      rw [UInt32.toNat_add]
      exact Nat.mod_eq_of_lt (by show c.toNat + 32 < _; omega)
    exact Or.inr ⟨first, last, moved⟩
  · exact Or.inl rfl

theorem isBlank_eq_false_of_letter {c : Char} (first : 65 ≤ c.toNat) (last : c.toNat ≤ 122) :
    isBlank c = false := by
  refine Bool.eq_false_iff.mpr fun blank => ?_
  simp only [isBlank, Bool.or_eq_true, Bool.and_eq_true, decide_eq_true_eq, beq_iff_eq] at blank
  omega

theorem isBlank_toLower (c : Char) : isBlank c.toLower = isBlank c := by
  rcases toLower_cases c with same | ⟨first, last, moved⟩
  · rw [same]
  · rw [isBlank_eq_false_of_letter first (by omega), isBlank_eq_false_of_letter] <;> omega

theorem map_toLower_trimChars (chars : List Char) :
    (trimChars chars).map Char.toLower = trimChars (chars.map Char.toLower) := by
  have same : isBlank ∘ Char.toLower = isBlank := funext isBlank_toLower
  simp only [trimChars, List.dropWhile_map, same, ← List.map_reverse]

/-! ### Texts -/

/-- Texts that differ only in outer blanks and in letter case are those with the same words. -/
theorem sameWords_iff {left right : String} : sameWords left right = true ↔ Alike left right := by
  simp only [sameWords, sameLetters, trim, String.toList_ofList, beq_iff_eq]
  constructor
  · exact fun same => ⟨_, _, surrounds_trimChars _, surrounds_trimChars _, same⟩
  · rintro ⟨core, other, surroundsLeft, surroundsRight, same⟩
    rw [surroundsLeft.trimChars_eq, surroundsRight.trimChars_eq, map_toLower_trimChars, same,
      map_toLower_trimChars]

theorem Alike.symm {left right : String} (alike : Alike left right) : Alike right left := by
  obtain ⟨core, other, surroundsLeft, surroundsRight, same⟩ := alike
  exact ⟨other, core, surroundsRight, surroundsLeft, same.symm⟩

/-- Texts that are alike are like the same texts. -/
theorem sameWords_congr {text other : String} (alike : Alike text other) (option : String) :
    sameWords option text = sameWords option other := by
  have same := beq_iff_eq.mp (sameWords_iff.mpr alike)
  rw [sameWords, sameLetters, same]
  rfl

/-- Of two texts that are alike both are blank or neither is. -/
theorem isBlankText_congr {text other : String} (alike : Alike text other) :
    isBlankText text = isBlankText other := by
  have same := beq_iff_eq.mp (sameWords_iff.mpr alike)
  rw [Bool.eq_iff_iff, ← isEmpty_trim_iff, ← isEmpty_trim_iff, String.isEmpty_iff,
    String.isEmpty_iff, ← String.toList_eq_nil_iff, ← String.toList_eq_nil_iff,
    ← List.map_eq_nil_iff (f := Char.toLower), same, List.map_eq_nil_iff]

end OperatorDesk.Text
