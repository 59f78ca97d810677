/-
This file shows that numbers are read back from their decimal digits, with or without leading zeros,
if what follows cannot be taken for a further digit or if no further digit would be taken.
-/

import Mathlib.Algebra.Group.Nat.Defs
import Mathlib.Data.List.Basic
import OperatorDesk.Text.Digits
import OperatorDesk.Text.Blank

namespace OperatorDesk.Text

/-! ### The value of digits -/

theorem valueOfDigits_eq (digits : List Char) :
    valueOfDigits digits = Nat.ofDigitChars 10 digits 0 :=
  Nat.ofDigitChars_eq_foldl.symm

theorem valueOfDigits_append (first second : List Char) :
    valueOfDigits (first ++ second) =
      10 ^ second.length * valueOfDigits first + valueOfDigits second := by
  simp only [valueOfDigits_eq, Nat.ofDigitChars_append]
  exact Nat.ofDigitChars_eq_ofDigitChars_zero

theorem valueOfDigits_cons (c : Char) (digits : List Char) :
    valueOfDigits (c :: digits) = 10 ^ digits.length * digitValue c + valueOfDigits digits := by
  have alone : valueOfDigits [c] = digitValue c := Nat.zero_add _
  rw [← List.singleton_append, valueOfDigits_append, alone]

theorem toNat_of_isDigit {c : Char} (isDigit : c.isDigit = true) :
    48 ≤ c.toNat ∧ c.toNat ≤ 57 := by
  simp only [Char.isDigit, Bool.and_eq_true, decide_eq_true_eq, ge_iff_le,
    UInt32.le_iff_toNat_le] at isDigit
  exact isDigit

theorem valueOfDigits_lt {digits : List Char} (isDigit : ∀ c ∈ digits, c.isDigit = true) :
    valueOfDigits digits < 10 ^ digits.length := by
  induction digits with
  | nil => exact Nat.one_pos
  | cons c digits inductionHypothesis =>
    have others := inductionHypothesis fun other member => isDigit other (.tail c member)
    have first : digitValue c ≤ 9 :=
      Nat.sub_le_of_le_add (toNat_of_isDigit (isDigit c List.mem_cons_self)).2
    have scaled := Nat.mul_le_mul_left (10 ^ digits.length) first
    rw [valueOfDigits_cons, List.length_cons, Nat.pow_succ]
    omega

theorem valueOfDigits_zeros (count : Nat) : valueOfDigits (List.replicate count '0') = 0 := by
  rw [valueOfDigits_eq, Nat.ofDigitChars_replicate_zero, Nat.mul_zero]

theorem valueOfDigits_toDigits (number : Nat) :
    valueOfDigits (Nat.toDigits 10 number) = number := by
  rw [valueOfDigits_eq, Nat.ofDigitChars_ten_toDigits]

/-- The decimal digits of a number do not begin with zero, unless it is all there is. -/
theorem head?_toDigits_ne_zero {number : Nat} (positive : 0 < number) :
    (Nat.toDigits 10 number).head? ≠ some '0' := by
  induction number using Nat.strongRecOn with
  | ind number inductionHypothesis =>
    rcases Nat.lt_or_ge number 10 with small | large
    · rw [Nat.toDigits_of_lt_base small, List.head?_cons, Ne, Option.some_inj,
        Nat.digitChar_eq_zero]
      exact Nat.ne_of_gt positive
    · have shorter := inductionHypothesis (number / 10) (Nat.div_lt_self positive (by decide))
        (Nat.div_pos large (by decide))
      rwa [Nat.toDigits_of_base_le (by decide) large,
        List.head?_append_of_ne_nil _ Nat.toDigits_ne_nil]

theorem digitValueIn?_of_isDigit {c : Char} (isDigit : c.isDigit = true) :
    digitValueIn? 10 c = some (digitValue c) := by
  have range := toNat_of_isDigit isDigit
  have small : c.toNat - '0'.toNat < 10 := by
    show c.toNat - 48 < 10
    omega
  rw [digitValueIn?, hexValue?, if_pos isDigit, digitValue]
  exact Option.filter_some_pos (decide_eq_true small)

theorem continueIn?_eq_foldl {digits : List Char} (isDigit : ∀ c ∈ digits, c.isDigit = true)
    (value : Nat) :
    continueIn? 10 value digits =
      some (digits.foldl (fun value c => 10 * value + digitValue c) value) := by
  induction digits generalizing value with
  | nil => rfl
  | cons c digits inductionHypothesis =>
    rw [continueIn?, digitValueIn?_of_isDigit (isDigit c List.mem_cons_self), Option.bind_some,
      inductionHypothesis fun other member => isDigit other (.tail c member)]
    rfl

theorem valueIn?_toDigits (number : Nat) : valueIn? 10 (Nat.toDigits 10 number) = some number := by
  have some : (Nat.toDigits 10 number).isEmpty = false :=
    List.isEmpty_eq_false_iff.mpr Nat.toDigits_ne_nil
  have isDigit : ∀ c ∈ Nat.toDigits 10 number, c.isDigit = true :=
    fun _ => Nat.isDigit_of_mem_toDigits (by decide) (by decide)
  rw [valueIn?, some, if_neg Bool.false_ne_true, continueIn?_eq_foldl isDigit]
  exact congrArg Option.some (valueOfDigits_toDigits number)

/-! ### Digits with leading zeros -/

/-- The digits of a number with leading zeros up to a width. -/
def paddedDigits (width number : Nat) : List Char :=
  List.replicate (width - (Nat.toDigits 10 number).length) '0' ++ Nat.toDigits 10 number

theorem toList_padded (width number : Nat) :
    (padded width number).toList = paddedDigits width number :=
  String.toList_ofList

theorem valueOfDigits_padded (width number : Nat) :
    valueOfDigits (paddedDigits width number) = number := by
  rw [paddedDigits, valueOfDigits_append, valueOfDigits_zeros, Nat.mul_zero, Nat.zero_add,
    valueOfDigits_toDigits]

theorem isDigit_of_mem_padded {width number : Nat} {c : Char}
    (member : c ∈ paddedDigits width number) : c.isDigit = true := by
  rcases List.mem_append.mp member with isZero | isDigit
  · rw [List.eq_of_mem_replicate isZero]
    rfl
  · exact Nat.isDigit_of_mem_toDigits (by decide) (by decide) isDigit

theorem paddedDigits_ne_nil (width number : Nat) : paddedDigits width number ≠ [] :=
  List.append_ne_nil_of_right_ne_nil _ Nat.toDigits_ne_nil

theorem length_padded {width number : Nat} (some : 0 < width) (fits : number < 10 ^ width) :
    (paddedDigits width number).length = width := by
  have short := (Nat.length_toDigits_le_iff (by decide) some).mpr fits
  rw [paddedDigits, List.length_append, List.length_replicate]
  omega

/-! ### Reading -/

/-- Nothing at the front of the text could be taken for a digit. -/
def StartsNoDigit (chars : List Char) : Prop :=
  ∀ c ∈ chars.head?, c.isDigit = false

theorem startsNoDigit_cons (c : Char) (other : c.isDigit = false) (rest : List Char) :
    StartsNoDigit (c :: rest) := by
  rintro _ ⟨⟩
  exact other

theorem leadingDigits_isDigit (limit : Nat) (chars : List Char) :
    ∀ c ∈ leadingDigits limit chars, c.isDigit = true := by
  fun_induction leadingDigits limit chars with
  | case1 => nofun
  | case2 => nofun
  | case3 limit c rest isDigit inductionHypothesis =>
    intro other member
    cases member with
    | head => exact isDigit
    | tail _ later => exact inductionHypothesis other later
  | case4 => nofun

theorem length_leadingDigits_le (limit : Nat) (chars : List Char) :
    (leadingDigits limit chars).length ≤ limit := by
  fun_induction leadingDigits limit chars with
  | case1 => exact Nat.le_refl 0
  | case2 => exact Nat.zero_le _
  | case3 limit c rest isDigit inductionHypothesis => exact Nat.succ_le_succ inductionHypothesis
  | case4 => exact Nat.zero_le _

/-- All digits are taken, if there are not too many, and no more. -/
theorem leadingDigits_append {digits rest : List Char} {limit : Nat}
    (isDigit : ∀ c ∈ digits, c.isDigit = true) (fits : digits.length ≤ limit)
    (ends : digits.length = limit ∨ StartsNoDigit rest) :
    leadingDigits limit (digits ++ rest) = digits := by
  induction digits generalizing limit with
  | nil =>
    cases limit with
    | zero => rfl
    | succ limit =>
      have other := ends.resolve_left nofun
      cases rest with
      | nil => rfl
      | cons c rest => exact if_neg (Bool.eq_false_iff.mp (other c rfl))
  | cons c digits inductionHypothesis =>
    obtain ⟨limit, rfl⟩ := Nat.exists_eq_add_one.mpr (Nat.lt_of_lt_of_le (Nat.succ_pos _) fits)
    have first := isDigit c List.mem_cons_self
    have others := inductionHypothesis (fun other member => isDigit other (.tail c member))
      (Nat.le_of_succ_le_succ fits) (ends.imp_left Nat.succ.inj)
    rw [List.cons_append, leadingDigits, if_pos first, others]

theorem readNumber?_append {digits rest : List Char} {limit : Nat} (some : digits ≠ [])
    (isDigit : ∀ c ∈ digits, c.isDigit = true) (fits : digits.length ≤ limit)
    (ends : digits.length = limit ∨ StartsNoDigit rest) :
    readNumber? limit (digits ++ rest) = .some (valueOfDigits digits, rest) := by
  unfold readNumber?
  rw [leadingDigits_append isDigit fits ends]
  split
  · exact absurd rfl some
  · rw [List.drop_left]

/-- A number that has as many digits as are read at most is read back, whatever follows. -/
theorem readNumber?_padded {width number : Nat} (some : 0 < width) (fits : number < 10 ^ width)
    (rest : List Char) :
    readNumber? width (paddedDigits width number ++ rest) = .some (number, rest) := by
  have size := length_padded some fits
  rw [readNumber?_append (paddedDigits_ne_nil width number) (fun _ => isDigit_of_mem_padded)
    (Nat.le_of_eq size) (Or.inl size), valueOfDigits_padded]

/-! ### Digits among other characters -/

theorem isBlank_eq_false_of_isDigit {c : Char} (isDigit : c.isDigit = true) :
    isBlank c = false := by
  have range := toNat_of_isDigit isDigit
  simp only [isBlank, Bool.or_eq_false_iff, Bool.and_eq_false_iff, decide_eq_false_iff_not,
    beq_eq_false_iff_ne]
  omega

/-- There are no blanks before digits. -/
theorem dropWhile_isBlank_append {digits rest : List Char} (some : digits ≠ [])
    (isDigit : ∀ c ∈ digits, c.isDigit = true) :
    (digits ++ rest).dropWhile isBlank = digits ++ rest := by
  cases digits with
  | nil => exact absurd rfl some
  | cons c digits =>
    have first := isBlank_eq_false_of_isDigit (isDigit c List.mem_cons_self)
    exact List.dropWhile_cons_of_neg (Bool.eq_false_iff.mp first)

end OperatorDesk.Text
