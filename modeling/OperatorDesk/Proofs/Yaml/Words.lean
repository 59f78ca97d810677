/-
This file shows how the words of a block mapping are read, where words have no other characters
than letters, digits and underscores. Such a word ends before a colon, as a key, or before a line
break, as a value; behind a value the indentation of the next line is gone over as well, since
only then it is known that the scalar does not go on.
-/

import OperatorDesk.Yaml.Scalar.Plain

namespace OperatorDesk.Yaml

/-! ### Characters of words -/

/-- A letter, a digit or an underscore. -/
def isWordChar (c : Char) : Bool :=
  c.isAlphanum || c == '_'

/-- One such character or more. -/
structure IsWord (word : List Char) : Prop where
  ne_nil : word ≠ []
  isWordChar : ∀ c ∈ word, isWordChar c = true

/-- The text is over, or it goes on with a word. -/
def StartsWord (rest : List Char) : Prop :=
  ∀ c ∈ rest.head?, isWordChar c = true

section

variable {c : Char} (isWord : isWordChar c = true)

include isWord

theorem ne_of_isWordChar {other : Char} (isOther : isWordChar other = false) : c ≠ other := by
  rintro rfl
  exact absurd isWord (Bool.eq_false_iff.mp isOther)

theorem toNat_of_isWordChar : 48 ≤ c.toNat ∧ c.toNat ≤ 122 := by
  have within {first last : UInt32} (range : c.val ≥ first ∧ c.val ≤ last) :
      first.toNat ≤ c.toNat ∧ c.toNat ≤ last.toNat :=
    range.imp UInt32.le_iff_toNat_le.mp UInt32.le_iff_toNat_le.mp
  have both {lower upper : Prop} [Decidable lower] [Decidable upper]
      (holds : (decide lower && decide upper) = true) : lower ∧ upper :=
    ((Bool.and_eq_true _ _).mp holds).imp of_decide_eq_true of_decide_eq_true
  rcases (Bool.or_eq_true _ _).mp isWord with isAlphanumeric | isUnderscore
  · rcases (Bool.or_eq_true _ _).mp isAlphanumeric with isLetter | isDigit
    · rcases (Bool.or_eq_true _ _).mp isLetter with isUpper | isLower
      · have range : 65 ≤ c.toNat ∧ c.toNat ≤ 90 := within (of_decide_eq_true isUpper)
        omega
      · have range : 97 ≤ c.toNat ∧ c.toNat ≤ 122 := within (both isLower)
        omega
    · have range : 48 ≤ c.toNat ∧ c.toNat ≤ 57 := within (both isDigit)
      omega
  · obtain rfl := beq_iff_eq.mp isUnderscore
    decide

theorem isSpace_of_isWordChar : isSpace c = false := by
  simp only [isSpace, Bool.or_eq_false_iff, beq_eq_false_iff_ne]
  exact ⟨ne_of_isWordChar isWord rfl, ne_of_isWordChar isWord rfl⟩

theorem isBreak_of_isWordChar : isBreak c = false := by
  have range := toNat_of_isWordChar isWord
  simp only [isBreak, Bool.or_eq_false_iff, beq_eq_false_iff_ne]
  exact ⟨⟨⟨⟨ne_of_isWordChar isWord rfl, ne_of_isWordChar isWord rfl⟩, by omega⟩, by omega⟩,
    by omega⟩

theorem isAllowed_of_isWordChar : isAllowed c = true := by
  have range := toNat_of_isWordChar isWord
  simp only [isAllowed, Bool.or_eq_true, Bool.and_eq_true, decide_eq_true_eq]
  exact .inl (.inl (.inl (.inr ⟨by omega, by omega⟩)))

end

/-! ### Cursors -/

section

variable {rest : List Char} {index line column : Nat}

theorem Cursor.readBreak?_startsWord (starts : StartsWord rest) :
    Cursor.readBreak? { rest, index, line, column } = none := by
  cases rest with
  | nil => rfl
  | cons c rest =>
    have isWord := starts c rfl
    have range := toNat_of_isWordChar isWord
    have noReturn : c ≠ '\r' := ne_of_isWordChar isWord rfl
    unfold Cursor.readBreak?
    split
    · next same => exact absurd (List.cons.inj same).1 noReturn
    · next same =>
      obtain rfl := (List.cons.inj same).1
      rw [if_neg (by omega), isBreak_of_isWordChar isWord]
      rfl
    · rfl

end

/-! ### Gaps -/

/-- The rest of a gap behind its first line break is gone over up to the next word. -/
theorem WordGap.continued_spaces {gap : WordGap} (broken : gap.broken = true) {rest : List Char}
    (starts : StartsWord rest) (indent count : Nat) {fuel : Nat} (enough : count ≤ fuel)
    (index line column : Nat) :
    continued indent fuel gap
        { rest := List.replicate count ' ' ++ rest, index, line, column } =
      some (gap, { rest, index := index + count, line, column := column + count }) := by
  induction count generalizing fuel index column with
  | zero =>
    cases fuel with
    | zero => rfl
    | succ fuel =>
      rw [List.replicate_zero, List.nil_append, continued, Cursor.readBreak?_startsWord starts]
      cases rest with
      | nil => rfl
      | cons c rest =>
        dsimp only
        rw [isSpace_of_isWordChar (starts c rfl)]
        rfl
  | succ count inductionHypothesis =>
    obtain ⟨fuel, rfl⟩ : ∃ less, fuel = less + 1 := Nat.exists_eq_add_one.mpr (by omega)
    have others := inductionHypothesis (Nat.le_of_succ_le_succ enough) (index + 1) (column + 1)
    have noBreak : Cursor.readBreak?
        { rest := ' ' :: (List.replicate count ' ' ++ rest), index, line, column } = none := rfl
    rw [Nat.add_right_comm index, Nat.add_right_comm column] at others
    rw [List.replicate_succ, List.cons_append, continued, noBreak]
    dsimp only
    rw [broken]
    exact others

/-- A line break and the indentation of the next line. -/
def WordGap.lineEnd : WordGap :=
  { spaces := [], broken := true, first := some '\n', more := [] }

theorem WordGap.read?_lineEnd {rest : List Char} (starts : StartsWord rest)
    (indent count index line column : Nat) :
    WordGap.empty.read? indent
        { rest := '\n' :: (List.replicate count ' ' ++ rest), index, line, column } =
      some (.lineEnd, { rest, index := index + 1 + count, line := line + 1, column := count }) := by
  have spaces := continued_spaces (rfl : WordGap.lineEnd.broken = true) starts indent count
    (by simp : count ≤ (List.replicate count ' ' ++ rest).length) (index + 1) (line + 1) 0
  rw [Nat.zero_add] at spaces
  exact spaces

/-! ### Words -/

theorem plainWord?_append {word rest : List Char} (isWord : ∀ c ∈ word, isWordChar c = true)
    (ends : plainWord? false rest = some []) : plainWord? false (word ++ rest) = some word := by
  induction word with
  | nil => exact ends
  | cons c word inductionHypothesis =>
    have first := isWord c List.mem_cons_self
    have others := inductionHypothesis fun other member => isWord other (.tail c member)
    have noColon := ne_of_isWordChar first (rfl : isWordChar ':' = false)
    simp [plainWord?, isSpace_of_isWordChar first, isBreak_of_isWordChar first, noColon, others]

theorem Cursor.seesMark_other {c mark : Char} (other : c ≠ mark) (after : List Char)
    (index line column : Nat) :
    Cursor.seesMark { rest := c :: after, index, line, column } mark = false := by
  unfold Cursor.seesMark
  split
  · next same =>
    obtain rfl := (List.cons.inj same).1
    rw [beq_false_of_ne other]
    rfl
  · rfl

/-- Neither a comment nor a document mark stands where a word begins. -/
theorem noMark_of_isWord {word : List Char} (isWord : IsWord word) (after : List Char)
    (index line column : Nat) :
    (Cursor.seesDocumentMark { rest := word ++ after, index, line, column } ||
      Cursor.sees { rest := word ++ after, index, line, column } '#') = false := by
  obtain ⟨c, word, rfl⟩ := List.exists_cons_of_ne_nil isWord.ne_nil
  have first := isWord.isWordChar c List.mem_cons_self
  have noComment : c ≠ '#' := ne_of_isWordChar first rfl
  rw [List.cons_append, Cursor.seesDocumentMark,
    Cursor.seesMark_other (ne_of_isWordChar first rfl),
    Cursor.seesMark_other (ne_of_isWordChar first rfl)]
  simpa [Cursor.sees] using noComment

theorem Cursor.advance_word (word after : List Char) (index line column : Nat) :
    Cursor.advance { rest := word ++ after, index, line, column } word.length =
      { rest := after, index := index + word.length, line, column := column + word.length } := by
  rw [Cursor.advance, List.drop_left]

theorem WordGap.empty_text_append (word : List Char) : WordGap.empty.text ++ word = word := rfl

/-- A key ends at its colon. -/
theorem readPlain?_key {word after : List Char} (isWord : IsWord word)
    (ends : endsWord after = true) (indent index line column : Nat) :
    readPlain? false indent { rest := word ++ ':' :: after, index, line, column } =
      some { text := word, broken := false
             cursor := { rest := ':' :: after, index := index + word.length, line
                         column := column + word.length } } := by
  have noMark := noMark_of_isWord isWord (':' :: after) index line column
  have colon : plainWord? false (':' :: after) = some [] := by simp [plainWord?, ends]
  have reads := plainWord?_append isWord.isWordChar colon
  have notEmpty : word.isEmpty = false := List.isEmpty_eq_false_iff.mpr isWord.ne_nil
  have noEnd : endsWord (':' :: after) = false := rfl
  simp only [readPlain?, readPlainFrom?, noMark, reads, notEmpty, Cursor.advance_word, noEnd,
    WordGap.empty_text_append, Option.bind_eq_bind, Option.bind_some, Bool.false_eq_true, if_false,
    Bool.not_false, Bool.or_true, if_true, Option.pure_def]
  rfl

/-- A value goes on over the indentation of the next line, which is not deep enough for more of
it. -/
theorem readPlain?_value {word rest : List Char} (isWord : IsWord word) (starts : StartsWord rest)
    {indent count : Nat} (shallow : count < indent) (index line column : Nat) :
    readPlain? false indent
        { rest := word ++ '\n' :: (List.replicate count ' ' ++ rest), index, line, column } =
      some { text := word, broken := true
             cursor := { rest, index := index + word.length + 1 + count, line := line + 1
                         column := count } } := by
  have noMark := noMark_of_isWord isWord ('\n' :: (List.replicate count ' ' ++ rest)) index line
    column
  have lineEnd : plainWord? false ('\n' :: (List.replicate count ' ' ++ rest)) = some [] := rfl
  have reads := plainWord?_append isWord.isWordChar lineEnd
  have notEmpty : word.isEmpty = false := List.isEmpty_eq_false_iff.mpr isWord.ne_nil
  have ends : endsWord ('\n' :: (List.replicate count ' ' ++ rest)) = true := rfl
  have gap := WordGap.read?_lineEnd starts indent count (index + word.length) line
    (column + word.length)
  simp only [readPlain?, readPlainFrom?, noMark, reads, notEmpty, Cursor.advance_word, ends,
    WordGap.empty_text_append, gap, shallow, List.isEmpty_cons, Option.bind_eq_bind,
    Option.bind_some, Bool.false_eq_true, if_false, Bool.not_true, Bool.or_false, Bool.not_false,
    Bool.true_and, decide_true, if_true, Option.pure_def]
  rfl

end OperatorDesk.Yaml
