/-
This file shows into which tokens a text is cut that is a block mapping of lines, each with a key
and perhaps a word behind its colon. The columns of the keys alone decide which mappings are opened
and closed. The induction is on the lines; each line takes two rounds of the scanner for its key
and its colon and a third one for its value, which ends at the key of the next line.
-/

import Mathlib.Data.List.Chain
import Mathlib.Data.List.TakeWhile
import OperatorDesk.Proofs.Yaml.Words
import OperatorDesk.Yaml.Token.Reader

namespace OperatorDesk.Yaml

/-! ### Lines and their tokens -/

/-- A line of a block mapping. -/
structure Line where
  /-- The column of the key. -/
  column : Nat
  key : List Char
  /-- The word behind the colon. -/
  value : Option (List Char)

namespace Line

/-- The line behind its indentation. -/
def body (line : Line) : List Char :=
  line.key ++ ':' :: (line.value.elim [] (' ' :: ·) ++ ['\n'])

/-- The line with its indentation. -/
def chars (line : Line) : List Char :=
  List.replicate line.column ' ' ++ line.body

/-- Key and value are words, and the key is not too long to be one. -/
structure IsTidy (line : Line) : Prop where
  isKey : IsWord line.key
  isShort : line.key.length ≤ keyReach
  isValue : ∀ value ∈ line.value, IsWord value

/-- The value of the line does not go on in the next line. -/
def IsApart (line next : Line) : Prop :=
  line.value.isSome → next.column ≤ line.column

end Line

/-- The open blocks that a key in a column leaves open. -/
def keptBlocks (blocks : List Nat) (column : Nat) : List Nat :=
  blocks.dropWhile (column < ·)

/-- The marks at the ends of the blocks that a key in a column closes. -/
def blockEnds (blocks : List Nat) (column : Nat) : List Token :=
  (blocks.takeWhile (column < ·)).map fun _ => .blockEnd

/-- The open blocks behind a key in a column. -/
def openBlocks (blocks : List Nat) (column : Nat) : List Nat :=
  let kept := keptBlocks blocks column
  if Scanner.isDeeper kept column then column :: kept else kept

/-- The mark of the mapping that a key in a column opens. -/
def blockStarts (blocks : List Nat) (column : Nat) : List Token :=
  if Scanner.isDeeper (keptBlocks blocks column) column then [.blockMappingStart] else []

/-- The tokens of lines behind others that have left blocks open. -/
def outline : List Nat → List Line → List Token
  | blocks, [] => blocks.map fun _ => .blockEnd
  | blocks, line :: lines =>
    blockEnds blocks line.column ++ blockStarts blocks line.column ++
      [.key, .scalar .plain line.key, .value] ++
      (line.value.map (.scalar .plain)).toList ++
      outline (openBlocks blocks line.column) lines

/-- A key leaves no block open to its right. -/
theorem le_of_head?_keptBlocks {blocks : List Nat} {column innermost : Nat}
    (isInnermost : (keptBlocks blocks column).head? = some innermost) : innermost ≤ column := by
  have stops := List.head?_dropWhile_not (column < ·) blocks
  rw [← keptBlocks, isInnermost] at stops
  simpa using stops

/-- A key is in the column of the innermost block. -/
theorem head?_openBlocks (blocks : List Nat) (column : Nat) :
    (openBlocks blocks column).head? = some column := by
  unfold openBlocks
  cases kept : keptBlocks blocks column with
  | nil => rfl
  | cons innermost others =>
    have notRight : innermost ≤ column := le_of_head?_keptBlocks (congrArg List.head? kept)
    by_cases deeper : innermost < column
    · simp [Scanner.isDeeper, deeper]
    · simp [Scanner.isDeeper, deeper]
      omega

namespace Scanner

/-! ### Rounds of the scanner -/

/-- The scanner between lines or behind a colon: no key is possible, no flow collection open. -/
def between (keyAllowed : Bool) (cursor : Cursor) (tokens : List Token) (blocks : List Nat) :
    Scanner :=
  { cursor, tokens, blocks, key := none, outerKeys := [], keyAllowed }

section

variable {scanner ready next : Scanner} {fuel : Nat}

theorem cursor_closeBlocks (scanner : Scanner) (column : Nat) :
    (scanner.closeBlocks column).cursor = scanner.cursor := by
  unfold closeBlocks
  split <;> rfl

/-- No block is closed by what stands to the right of the innermost one. -/
theorem closeBlocks_eq {column : Nat}
    (isRight : ∀ innermost ∈ scanner.blocks.head?, innermost ≤ column) :
    scanner.closeBlocks column = scanner := by
  obtain ⟨cursor, tokens, blocks, key, outerKeys, keyAllowed⟩ := scanner
  unfold closeBlocks
  split
  · rfl
  · cases blocks with
    | nil => simp [closeWhile]
    | cons innermost blocks =>
      have stays : ¬column < innermost := Nat.not_lt.mpr (isRight innermost rfl)
      simp [closeWhile, stays]

theorem dropStaleKeys?_fresh {key : PossibleKey} (isKey : scanner.key = some key)
    (outside : scanner.outerKeys = []) (fresh : key.isStale scanner.cursor = false) :
    scanner.dropStaleKeys? = some scanner := by
  obtain ⟨cursor, tokens, blocks, _, _, keyAllowed⟩ := scanner
  cases isKey
  cases outside
  have fresh : key.isStale cursor = false := fresh
  simp [dropStaleKeys?, freshKey?, fresh]

/-- A round reads one token. -/
theorem tokensFrom?_token {c : Char} {rest : List Char}
    (isReady : scanner.toToken.dropStaleKeys? = some ready) (sees : ready.cursor.rest = c :: rest)
    (reads : (ready.closeBlocks ready.cursor.column).token? c rest = some next) :
    tokensFrom? (fuel + 1) scanner = tokensFrom? fuel next := by
  simp only [tokensFrom?, isReady, Option.bind_eq_bind, Option.bind_some, cursor_closeBlocks, sees,
    reads]

end

section

variable {rest : List Char} {index line column : Nat} {tokens : List Token} {blocks : List Nat}

theorem skipByteOrderMark_other {cursor : Cursor}
    (other : ∀ c ∈ cursor.rest.head?, c ≠ byteOrderMark) : skipByteOrderMark cursor = cursor := by
  refine if_neg fun sees => ?_
  have isMark := beq_iff_eq.mp sees.2
  exact other byteOrderMark isMark rfl

theorem toToken_eq {scanner : Scanner} {keyAllowed : Bool} {cursor : Cursor}
    (other : ∀ c ∈ scanner.cursor.rest.head?, c ≠ byteOrderMark)
    (skips : skipBlanks scanner.inFlow (scanner.cursor.rest.length + 1) scanner.keyAllowed
      scanner.cursor = (keyAllowed, cursor)) :
    scanner.toToken = { scanner with keyAllowed, cursor } := by
  simp only [toToken, skipByteOrderMark_other other, skips]

/-- The spaces before a word are gone over, whether tabs would be or not. -/
theorem skip_spaces (tabs : Bool) (starts : StartsWord rest) (count : Nat) :
    Cursor.skip { rest := List.replicate count ' ' ++ rest, index, line, column }
        (fun c => c == ' ' || (tabs && c == '\t')) =
      { rest, index := index + count, line, column := column + count } := by
  have noMore : rest.takeWhile (fun c => c == ' ' || (tabs && c == '\t')) = [] := by
    cases rest with
    | nil => rfl
    | cons c rest =>
      have noSpace : c ≠ ' ' := ne_of_isWordChar (starts c rfl) rfl
      have noTab : c ≠ '\t' := ne_of_isWordChar (starts c rfl) rfl
      exact List.takeWhile_cons_of_neg (by simp [noSpace, noTab])
  have spaces : ∀ c ∈ List.replicate count ' ', (c == ' ' || (tabs && c == '\t')) = true := by
    intro c member
    rw [List.eq_of_mem_replicate member]
    rfl
  have word := Cursor.advance_word (List.replicate count ' ') rest index line column
  rw [List.length_replicate] at word
  rw [Cursor.skip, Cursor.peek, List.takeWhile_append_of_pos spaces, noMore, List.append_nil,
    List.length_replicate, word]

/-- A word is reached over the spaces before it. -/
theorem skipBlanks_spaces (keyAllowed : Bool) (starts : StartsWord rest) (count fuel : Nat) :
    skipBlanks false (fuel + 1) keyAllowed
        { rest := List.replicate count ' ' ++ rest, index, line, column } =
      (keyAllowed, { rest, index := index + count, line, column := column + count }) := by
  have noComment : Cursor.sees
      { rest, index := index + count, line, column := column + count } '#' = false := by
    cases rest with
    | nil => rfl
    | cons c rest =>
      exact beq_false_of_ne fun same =>
        ne_of_isWordChar (starts c rfl) rfl (Option.some_inj.mp same)
  simp only [skipBlanks, skip_spaces _ starts, noComment, Cursor.readBreak?_startsWord starts,
    Bool.false_eq_true, if_false]

theorem toToken_spaces (keyAllowed : Bool) (starts : StartsWord rest) (count : Nat) :
    (between keyAllowed { rest := List.replicate count ' ' ++ rest, index, line, column } tokens
        blocks).toToken =
      between keyAllowed { rest, index := index + count, line, column := column + count } tokens
        blocks := by
  refine toToken_eq ?_ (skipBlanks_spaces keyAllowed starts count _)
  show ∀ c ∈ (List.replicate count ' ' ++ rest).head?, c ≠ byteOrderMark
  cases count with
  | zero => exact fun c isFirst => ne_of_isWordChar (starts c isFirst) (by decide)
  | succ count =>
    rintro _ ⟨⟩
    decide

/-- The next line is reached over its indentation, and a key may begin there. -/
theorem toToken_lineEnd (starts : StartsWord rest) (count : Nat) :
    (between false { rest := '\n' :: (List.replicate count ' ' ++ rest), index, line, column }
        tokens blocks).toToken =
      between true { rest, index := index + 1 + count, line := line + 1, column := count } tokens
        blocks := by
  have spaces : skipBlanks false ((List.replicate count ' ' ++ rest).length + 1) true
      { rest := List.replicate count ' ' ++ rest, index := index + 1, line := line + 1
        column := 0 } =
        (true, { rest, index := index + 1 + count, line := line + 1, column := 0 + count }) :=
    skipBlanks_spaces true starts count _
  rw [Nat.zero_add] at spaces
  refine toToken_eq ?_ spaces
  rintro _ ⟨⟩
  decide

/-! ### Words as tokens -/

theorem startsPlain_of_isWordChar {c : Char} (isWord : isWordChar c = true) (after : List Char) :
    startsPlain false c after = true := by
  have noIndicator : isIndicator c = false := by
    have others : ∀ other ∈ ['-', '?', ':', ',', '[', ']', '\x7b', '\x7d', '#', '&', '*', '!', '|',
        '>', '\'', '"', '%', '@', Char.ofNat 0x60], isWordChar other = false := by
      simp [isWordChar]
    refine Bool.eq_false_iff.mpr fun isIndicator => ?_
    have member := List.contains_iff_mem.mp isIndicator
    exact ne_of_isWordChar isWord (others c member) rfl
  simp [startsPlain, noIndicator, endsWord, isSpace_of_isWordChar isWord,
    isBreak_of_isWordChar isWord]

theorem seesMark_other {scanner : Scanner} {c mark : Char} {after : List Char}
    (sees : scanner.cursor.rest = c :: after) (other : c ≠ mark) :
    scanner.cursor.seesMark mark = false := by
  obtain ⟨⟨rest, index, line, column⟩⟩ := scanner
  obtain rfl : rest = c :: after := sees
  exact Cursor.seesMark_other other after index line column

/-- A word is read as a plain scalar. -/
theorem token?_word {scanner : Scanner} {c : Char} {after : List Char}
    (isWord : isWordChar c = true) (outside : scanner.inFlow = false)
    (sees : scanner.cursor.rest = c :: after) : scanner.token? c after = scanner.plain? := by
  have noMark {mark : Char} (isMark : isWordChar mark = false) :=
    seesMark_other sees (ne_of_isWordChar isWord isMark)
  have other {mark : Char} (isMark : isWordChar mark = false) : (c = mark) = False :=
    eq_false (ne_of_isWordChar isWord isMark)
  simp only [token?, noMark (rfl : isWordChar '-' = false), noMark (rfl : isWordChar '.' = false),
    other (rfl : isWordChar '%' = false), other (rfl : isWordChar '[' = false),
    other (rfl : isWordChar '\x7b' = false), other (rfl : isWordChar ']' = false),
    other (rfl : isWordChar '\x7d' = false), other (rfl : isWordChar ',' = false),
    other (rfl : isWordChar '-' = false), other (rfl : isWordChar '?' = false),
    other (rfl : isWordChar ':' = false), other (rfl : isWordChar '*' = false),
    other (rfl : isWordChar '&' = false), other (rfl : isWordChar '!' = false),
    other (rfl : isWordChar '|' = false), other (rfl : isWordChar '>' = false),
    other (rfl : isWordChar '\'' = false), other (rfl : isWordChar '"' = false), outside,
    startsPlain_of_isWordChar isWord, and_false, false_and, Bool.false_eq_true, if_false, if_true]

/-- A colon behind a word is read as the mark of a value. -/
theorem token?_colon {scanner : Scanner} {after : List Char} (outside : scanner.inFlow = false)
    (sees : scanner.cursor.rest = ':' :: after) (ends : endsWord after = true) :
    scanner.token? ':' after = scanner.valueMark? := by
  have noDash := seesMark_other sees (by decide : ':' ≠ '-')
  have noDot := seesMark_other sees (by decide : ':' ≠ '.')
  simp [token?, noDash, noDot, outside, ends]

/-! ### A key -/

/-- The scanner behind a word that may be a key. -/
def behindKey (key after : List Char) (index line column : Nat) (tokens : List Token)
    (blocks : List Nat) : Scanner where
  cursor :=
    { rest := ':' :: after, index := index + key.length, line, column := column + key.length }
  tokens := tokens ++ blockEnds blocks column ++ [.scalar .plain key]
  blocks := keptBlocks blocks column
  key := some {
    isRequired := (keptBlocks blocks column).head? == some column
    position := (tokens ++ blockEnds blocks column).length
    index, line, column }
  outerKeys := []
  keyAllowed := false

theorem tokensFrom?_word {scanner : Scanner} {key after : List Char} (isKey : IsWord key)
    (ends : endsWord after = true)
    (isReady : scanner.toToken =
      between true { rest := key ++ ':' :: after, index, line, column } tokens blocks)
    (fuel : Nat) :
    tokensFrom? (fuel + 1) scanner =
      tokensFrom? fuel (behindKey key after index line column tokens blocks) := by
  obtain ⟨c, others, begins⟩ := List.exists_cons_of_ne_nil isKey.ne_nil
  have first : isWordChar c = true := isKey.isWordChar c (begins ▸ List.mem_cons_self)
  have sees : key ++ ':' :: after = c :: (others ++ ':' :: after) := by
    rw [begins, List.cons_append]
  refine tokensFrom?_token (congrArg dropStaleKeys? isReady) sees ?_
  refine (token?_word first rfl sees).trans ?_
  have reads (indent : Nat) := readPlain?_key isKey ends indent index line column
  exact congrArg (Option.bind · _) (reads _)

/-- The marks of the key, and of the mapping that it opens, are put in before it. -/
theorem valueMark?_behindKey (key after : List Char) :
    (behindKey key after index line column tokens blocks).valueMark? =
      some (between false
        { rest := after, index := index + key.length + 1, line, column := column + key.length + 1 }
        (tokens ++ blockEnds blocks column ++ blockStarts blocks column ++
          [.key, .scalar .plain key, .value])
        (openBlocks blocks column)) := by
  unfold behindKey openBlocks blockStarts
  generalize tokens ++ blockEnds blocks column = front
  simp only [valueMark?, openBlock, insertAt, List.append_assoc, List.take_left, List.drop_left]
  cases isDeeper (keptBlocks blocks column) column <;>
    simp [inFlow, between, mark, emit, Cursor.advance]

theorem tokensFrom?_colon {key after : List Char} (isShort : key.length ≤ keyReach)
    (ends : endsWord after = true) (fuel : Nat) :
    tokensFrom? (fuel + 1) (behindKey key after index line column tokens blocks) =
      tokensFrom? fuel
        (between false
          { rest := after, index := index + key.length + 1, line
            column := column + key.length + 1 }
          (tokens ++ blockEnds blocks column ++ blockStarts blocks column ++
            [.key, .scalar .plain key, .value])
          (openBlocks blocks column)) := by
  have stays : (behindKey key after index line column tokens blocks).toToken =
      behindKey key after index line column tokens blocks :=
    toToken_eq (by rintro _ ⟨⟩; decide) rfl
  have fresh : (behindKey key after index line column tokens blocks).dropStaleKeys? =
      some (behindKey key after index line column tokens blocks) := by
    refine dropStaleKeys?_fresh rfl rfl ?_
    have near : ¬index + keyReach < index + key.length := by omega
    rw [PossibleKey.isStale, behindKey, decide_eq_false (Nat.lt_irrefl line), Bool.false_or]
    exact decide_eq_false near
  have keeps : (behindKey key after index line column tokens blocks).closeBlocks
      (column + key.length) = behindKey key after index line column tokens blocks :=
    closeBlocks_eq fun innermost isInnermost =>
      Nat.le_add_right_of_le (le_of_head?_keptBlocks isInnermost)
  refine tokensFrom?_token ((congrArg dropStaleKeys? stays).trans fresh) rfl ?_
  refine (congrArg (token? · ':' after) keeps).trans ?_
  rw [token?_colon rfl rfl ends, valueMark?_behindKey]

/-- A key and its colon take two rounds. -/
theorem tokensFrom?_key {scanner : Scanner} {key after : List Char} (isKey : IsWord key)
    (isShort : key.length ≤ keyReach) (ends : endsWord after = true)
    (isReady : scanner.toToken =
      between true { rest := key ++ ':' :: after, index, line, column } tokens blocks)
    (fuel : Nat) :
    tokensFrom? (fuel + 2) scanner =
      tokensFrom? fuel
        (between false
          { rest := after, index := index + key.length + 1, line
            column := column + key.length + 1 }
          (tokens ++ blockEnds blocks column ++ blockStarts blocks column ++
            [.key, .scalar .plain key, .value])
          (openBlocks blocks column)) :=
  (tokensFrom?_word isKey ends isReady (fuel + 1)).trans (tokensFrom?_colon isShort ends fuel)

/-! ### A value -/

/-- A value takes a round, which ends at the next line. -/
theorem tokensFrom?_value {value : List Char} (isValue : IsWord value) (starts : StartsWord rest)
    {innermost count : Nat} (isInnermost : blocks.head? = some innermost)
    (isRight : innermost ≤ column) (isApart : count ≤ innermost) (fuel : Nat) :
    tokensFrom? (fuel + 1)
        (between false
          { rest := ' ' :: (value ++ '\n' :: (List.replicate count ' ' ++ rest)), index, line
            column } tokens blocks) =
      tokensFrom? fuel
        (between true
          { rest, index := index + 1 + value.length + 1 + count, line := line + 1
            column := count } (tokens ++ [.scalar .plain value]) blocks) := by
  obtain ⟨c, others, begins⟩ := List.exists_cons_of_ne_nil isValue.ne_nil
  have first : isWordChar c = true := isValue.isWordChar c (begins ▸ List.mem_cons_self)
  have sees : value ++ '\n' :: (List.replicate count ' ' ++ rest) =
      c :: (others ++ '\n' :: (List.replicate count ' ' ++ rest)) := by
    rw [begins, List.cons_append]
  have startsValue : StartsWord (value ++ '\n' :: (List.replicate count ' ' ++ rest)) := by
    rw [sees]
    rintro _ ⟨⟩
    exact first
  have isReady : (between false
      { rest := ' ' :: (value ++ '\n' :: (List.replicate count ' ' ++ rest)), index, line, column }
        tokens blocks).toToken =
      between false
        { rest := value ++ '\n' :: (List.replicate count ' ' ++ rest), index := index + 1, line
          column := column + 1 } tokens blocks :=
    toToken_spaces false startsValue 1
  have keeps : (between false
      { rest := value ++ '\n' :: (List.replicate count ' ' ++ rest), index := index + 1, line
        column := column + 1 } tokens blocks).closeBlocks (column + 1) = _ :=
    closeBlocks_eq fun other isOther => by
      have same : other = innermost := Option.some_inj.mp (isOther.symm.trans isInnermost)
      omega
  refine tokensFrom?_token (congrArg dropStaleKeys? isReady) sees ?_
  refine (congrArg (token? · c _) keeps).trans ?_
  rw [token?_word first rfl sees]
  have shallow : count < (blocks.head?.map (· + 1)).getD 0 := by
    rw [isInnermost]
    exact Nat.lt_succ_of_le isApart
  have reads := readPlain?_value isValue starts shallow (index + 1) line (column + 1)
  exact congrArg (Option.bind · _) reads

/-! ### The end of the text -/

theorem tokensFrom?_end {scanner : Scanner} {keyAllowed : Bool}
    (isReady : scanner.toToken =
      between keyAllowed { rest := [], index, line, column } tokens blocks)
    (fuel : Nat) :
    tokensFrom? (fuel + 1) scanner = some (tokens ++ blocks.map fun _ => .blockEnd) := by
  have ready : scanner.toToken.dropStaleKeys? =
      some (between keyAllowed { rest := [], index, line, column } tokens blocks) :=
    congrArg dropStaleKeys? isReady
  have closed : tokens ++ ((blocks.takeWhile (column < ·)).map fun _ => Token.blockEnd) ++
      ((blocks.dropWhile (column < ·)).takeWhile fun _ => true).map (fun _ => Token.blockEnd) =
        tokens ++ blocks.map fun _ => Token.blockEnd := by
    have all (list : List Nat) : (list.takeWhile fun _ => true) = list :=
      List.takeWhile_eq_self_iff.mpr fun _ _ => rfl
    rw [all, List.append_assoc, ← List.map_append, List.takeWhile_append_dropWhile]
  simp only [tokensFrom?, ready, Option.bind_eq_bind, Option.bind_some, cursor_closeBlocks]
  exact congrArg some closed

end

end Scanner

/-! ### All lines -/

open Scanner

/-- The lines behind the indentation of the first. -/
def textFrom : List Line → List Char
  | [] => []
  | line :: lines => line.body ++ lines.flatMap Line.chars

/-- The column of the first line. -/
def firstColumn : List Line → Nat
  | [] => 0
  | line :: _ => line.column

theorem flatMap_chars (lines : List Line) :
    lines.flatMap Line.chars = List.replicate (firstColumn lines) ' ' ++ textFrom lines := by
  cases lines with
  | nil => rfl
  | cons line lines =>
    rw [List.flatMap_cons, Line.chars, List.append_assoc]
    rfl

theorem startsWord_textFrom {lines : List Line} (tidy : ∀ line ∈ lines, line.IsTidy) :
    StartsWord (textFrom lines) := by
  cases lines with
  | nil => nofun
  | cons line lines =>
    have isKey := (tidy line List.mem_cons_self).isKey
    obtain ⟨c, others, begins⟩ := List.exists_cons_of_ne_nil isKey.ne_nil
    have first := isKey.isWordChar c (begins ▸ List.mem_cons_self)
    rw [textFrom, Line.body, begins]
    rintro _ ⟨⟩
    exact first

theorem firstColumn_le {line : Line} {lines : List Line} (hasValue : line.value.isSome)
    (apart : List.IsChain Line.IsApart (line :: lines)) : firstColumn lines ≤ line.column := by
  cases lines with
  | nil => exact Nat.zero_le _
  | cons next lines => exact (List.isChain_cons_cons.mp apart).1 hasValue

/-- The lines that are left are cut into the tokens of their outline. -/
theorem tokensFrom?_lines {lines : List Line} (tidy : ∀ line ∈ lines, line.IsTidy)
    (apart : List.IsChain Line.IsApart lines) {scanner : Scanner} {index number : Nat}
    {tokens : List Token} {blocks : List Nat}
    (isReady : scanner.toToken = between true
      { rest := textFrom lines, index, line := number, column := firstColumn lines } tokens blocks)
    {fuel : Nat} (enough : (textFrom lines).length < fuel) :
    tokensFrom? fuel scanner = some (tokens ++ outline blocks lines) := by
  induction lines generalizing scanner index number tokens blocks fuel with
  | nil =>
    obtain ⟨fuel, rfl⟩ := Nat.exists_eq_add_one.mpr enough
    exact tokensFrom?_end isReady fuel
  | cons line lines inductionHypothesis =>
    have isTidy := tidy line List.mem_cons_self
    have tidyLines : ∀ other ∈ lines, other.IsTidy :=
      fun other member => tidy other (.tail line member)
    have starts := startsWord_textFrom tidyLines
    obtain ⟨column, key, value⟩ := line
    have isKey : IsWord key := isTidy.isKey
    have isShort : key.length ≤ keyReach := isTidy.isShort
    have here : firstColumn (⟨column, key, value⟩ :: lines) = column := rfl
    rw [here] at isReady
    cases value with
    | none =>
      have text : textFrom (⟨column, key, none⟩ :: lines) =
          key ++ ':' :: ('\n' :: (List.replicate (firstColumn lines) ' ' ++ textFrom lines)) := by
        rw [textFrom, flatMap_chars, Line.body]
        simp
      rw [text] at isReady enough
      simp only [List.length_append, List.length_cons] at enough
      obtain ⟨fuel, rfl⟩ : ∃ less, fuel = less + 2 := Nat.exists_eq_add_of_le' (by omega)
      rw [tokensFrom?_key isKey isShort rfl isReady]
      rw [inductionHypothesis tidyLines apart.tail (toToken_lineEnd starts _) (by omega)]
      simp [outline]
    | some value =>
      have text : textFrom (⟨column, key, some value⟩ :: lines) =
          key ++ ':' :: (' ' :: (value ++
            '\n' :: (List.replicate (firstColumn lines) ' ' ++ textFrom lines))) := by
        rw [textFrom, flatMap_chars, Line.body]
        simp
      rw [text] at isReady enough
      simp only [List.length_append, List.length_cons] at enough
      obtain ⟨fuel, rfl⟩ : ∃ less, fuel = less + 3 := Nat.exists_eq_add_of_le' (by omega)
      have isApart : firstColumn lines ≤ column := firstColumn_le rfl apart
      rw [tokensFrom?_key isKey isShort rfl isReady]
      rw [tokensFrom?_value (isTidy.isValue value rfl) starts (head?_openBlocks blocks column)
        (by omega) isApart]
      refine (inductionHypothesis tidyLines apart.tail (toToken_spaces true starts 0)
        (by omega)).trans ?_
      simp [outline]

theorem Line.IsTidy.isAllowed {line : Line} (isTidy : line.IsTidy) :
    ∀ c ∈ line.chars, isAllowed c = true := by
  intro c member
  simp only [Line.chars, Line.body, List.mem_append, List.mem_cons, List.not_mem_nil, or_false]
    at member
  rcases member with isSpace | isKey | rfl | isValue | rfl
  · rw [List.eq_of_mem_replicate isSpace]
    rfl
  · exact isAllowed_of_isWordChar (isTidy.isKey.isWordChar c isKey)
  · rfl
  · cases hasValue : line.value with
    | none =>
      rw [hasValue] at isValue
      cases isValue
    | some value =>
      rw [hasValue] at isValue
      rcases List.mem_cons.mp isValue with rfl | isValue
      · rfl
      · exact isAllowed_of_isWordChar ((isTidy.isValue value hasValue).isWordChar c isValue)
  · rfl

/-- A text of tidy lines is cut into the tokens of its outline. -/
theorem tokens?_lines {lines : List Line} (tidy : ∀ line ∈ lines, line.IsTidy)
    (apart : List.IsChain Line.IsApart lines) :
    tokens? (lines.flatMap Line.chars) = some (outline [] lines) := by
  have allowed : (lines.flatMap Line.chars).all isAllowed = true := by
    refine List.all_eq_true.mpr fun c member => ?_
    obtain ⟨line, isLine, member⟩ := List.mem_flatMap.mp member
    exact (tidy line isLine).isAllowed c member
  have isReady : (between true
      { rest := List.replicate (firstColumn lines) ' ' ++ textFrom lines, index := 0, line := 0
        column := 0 } [] []).toToken =
      between true
        { rest := textFrom lines, index := 0 + firstColumn lines, line := 0
          column := 0 + firstColumn lines } [] [] :=
    toToken_spaces true (startsWord_textFrom tidy) (firstColumn lines)
  rw [Nat.zero_add, ← flatMap_chars] at isReady
  have enough : (textFrom lines).length < (lines.flatMap Line.chars).length + 1 := by
    rw [flatMap_chars, List.length_append]
    omega
  rw [tokens?, if_pos allowed]
  exact tokensFrom?_lines tidy apart isReady enough

end OperatorDesk.Yaml
