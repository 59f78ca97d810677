/-
This file states what a JSON text is, as a grammar after RFC 8259, and shows that the reader reads
every such text as the value that it spells. Gaps may stand around every value, name and mark. The
induction is on the grammar; the reader is given two steps for each character, of which a list
takes one and its first item another.
-/

import Mathlib.Data.List.TakeDrop
import OperatorDesk.JsonValue.Reader
import OperatorDesk.Proofs.Text.Digits

namespace OperatorDesk.JsonValue

/-! ### Strings -/

/-- How a piece of a string is written. -/
inductive SpellsPiece : Piece → List Char → Prop where
  /-- A character as it stands. -/
  | plain {c : Char} (noQuote : c ≠ '"') (noBackslash : c ≠ '\\') (noControl : ¬c.toNat < 0x20) :
      SpellsPiece (.char c) [c]
  /-- A character as a letter after a backslash. -/
  | escape {c letter : Char} (means : escapeOf? letter = some c) :
      SpellsPiece (.char c) ['\\', letter]
  /-- A code unit with four hexadecimal digits. -/
  | unit {code : Nat} {first second third fourth : Char}
      (means : unitOf? first second third fourth = some code) :
      SpellsPiece (.unit code) ['\\', 'u', first, second, third, fourth]

/-- How a string is written: piece by piece, in quotes. -/
def SpellsString (content : Option String) (chars : List Char) : Prop :=
  ∃ pieces spellings, List.Forall₂ SpellsPiece pieces spellings ∧
    content = (joinPieces pieces).map String.ofList ∧
    chars = '"' :: (spellings.flatten ++ ['"'])

/-- The text goes on with the piece. -/
theorem SpellsPiece.readPieces {piece : Piece} {chars : List Char}
    (spelled : SpellsPiece piece chars) (rest : List Char) :
    readPieces (chars ++ rest) =
      (readPieces rest).map fun (pieces, left) => (piece :: pieces, left) := by
  cases spelled with
  | plain noQuote noBackslash noControl =>
    rw [List.singleton_append, JsonValue.readPieces,
      if_neg (not_or.mpr ⟨noBackslash, noControl⟩)]
    · cases JsonValue.readPieces rest <;> rfl
    · exact noQuote
    · exact fun _ _ _ _ _ isBackslash _ => noBackslash isBackslash
    · exact fun _ _ isBackslash _ => noBackslash isBackslash
  | @escape c letter means =>
    have other : letter ≠ 'u' := by
      rintro rfl
      cases means
    show JsonValue.readPieces ('\\' :: letter :: rest) = _
    rw [JsonValue.readPieces, means]
    · cases JsonValue.readPieces rest <;> rfl
    · exact fun _ _ _ _ _ isUnit _ => other isUnit
  | @unit code first second third fourth means =>
    show JsonValue.readPieces ('\\' :: 'u' :: first :: second :: third :: fourth :: rest) = _
    rw [JsonValue.readPieces, means]
    cases JsonValue.readPieces rest <;> rfl

theorem readPieces_spelled {pieces : List Piece} {spellings : List (List Char)}
    (spelled : List.Forall₂ SpellsPiece pieces spellings) (rest : List Char) :
    readPieces (spellings.flatten ++ '"' :: rest) = some (pieces, rest) := by
  induction spelled with
  | nil => rfl
  | cons first _ inductionHypothesis =>
    rw [List.flatten_cons, List.append_assoc, first.readPieces, inductionHypothesis]
    rfl

/-- A string begins with a quote, after which it is read up to its closing quote. -/
theorem SpellsString.readContent {content : Option String} {chars : List Char}
    (spelled : SpellsString content chars) (rest : List Char) :
    ∃ left, chars ++ rest = '"' :: left ∧ readContent left = some (content, rest) := by
  obtain ⟨pieces, spellings, spelled, rfl, rfl⟩ := spelled
  refine ⟨spellings.flatten ++ '"' :: rest, by simp, ?_⟩
  rw [JsonValue.readContent, readPieces_spelled spelled]
  rfl

/-! ### What follows a value -/

/-- The text is over, or a value that stood before it is. -/
def EndsValue (rest : List Char) : Prop :=
  ∀ c ∈ rest.head?, isGap c = true ∨ c = ',' ∨ c = ']' ∨ c = '}'

theorem endsValue_nil : EndsValue [] := nofun

theorem isGap_iff {c : Char} : isGap c = true ↔ c = ' ' ∨ c = '\t' ∨ c = '\n' ∨ c = '\r' := by
  simp [isGap, or_assoc]

/-- Nothing that follows a value can be taken for a part of a number. -/
theorem EndsValue.endsNumber {c : Char} {rest : List Char} (ends : EndsValue (c :: rest)) :
    c.isDigit = false ∧ c ≠ '.' ∧ c ≠ 'e' ∧ c ≠ 'E' := by
  rcases ends c rfl with gap | rfl | rfl | rfl
  · rcases isGap_iff.mp gap with rfl | rfl | rfl | rfl <;> decide
  all_goals decide

theorem EndsValue.startsNoDigit {rest : List Char} (ends : EndsValue rest) :
    Text.StartsNoDigit rest := by
  cases rest with
  | nil => nofun
  | cons c rest =>
    rintro _ ⟨⟩
    exact ends.endsNumber.1

/-! ### Numbers -/

/-- One digit or more. -/
structure IsDigits (digits : List Char) : Prop where
  ne_nil : digits ≠ []
  isDigit : ∀ c ∈ digits, c.isDigit = true

/-- Digits of which the first is zero only if it is the only one. -/
structure IsWhole (whole : List Char) : Prop extends IsDigits whole where
  noZero : ∀ c left, whole ≠ '0' :: c :: left

/-- A point with digits behind it, or nothing. -/
inductive IsFraction : List Char → Prop where
  | absent : IsFraction []
  | present {digits : List Char} (isDigits : IsDigits digits) : IsFraction ('.' :: digits)

/-- An exponent, which may have a sign, or nothing. -/
inductive IsExponent : List Char → Prop where
  | absent : IsExponent []
  | present {letter : Char} {sign digits : List Char} (isLetter : letter = 'e' ∨ letter = 'E')
      (isSign : sign = [] ∨ sign = ['+'] ∨ sign = ['-']) (isDigits : IsDigits digits) :
      IsExponent (letter :: (sign ++ digits))

/-- How a number without a sign is written. -/
def IsMagnitude (literal : List Char) : Prop :=
  ∃ whole fraction exponent, IsWhole whole ∧ IsFraction fraction ∧ IsExponent exponent ∧
    literal = whole ++ fraction ++ exponent

/-- How a number is written. -/
def IsNumber (literal : List Char) : Prop :=
  IsMagnitude literal ∨ ∃ magnitude, IsMagnitude magnitude ∧ literal = '-' :: magnitude

section

variable {digits literal rest : List Char}

theorem IsDigits.exists_cons (isDigits : IsDigits digits) :
    ∃ c left, digits = c :: left ∧ c.isDigit = true := by
  obtain ⟨c, left, rfl⟩ := List.exists_cons_of_ne_nil isDigits.ne_nil
  exact ⟨c, left, rfl, isDigits.isDigit c List.mem_cons_self⟩

theorem IsDigits.readDigits (isDigits : IsDigits digits) (ends : Text.StartsNoDigit rest) :
    readDigits (digits ++ rest) = some (digits, rest) := by
  have noMore : rest.takeWhile Char.isDigit = [] ∧ rest.dropWhile Char.isDigit = rest := by
    cases rest with
    | nil => exact ⟨rfl, rfl⟩
    | cons c rest =>
      have other := Bool.eq_false_iff.mp (ends c rfl)
      exact ⟨List.takeWhile_cons_of_neg other, List.dropWhile_cons_of_neg other⟩
  have split : (digits ++ rest).span Char.isDigit = (digits, rest) := by
    rw [List.span_eq_takeWhile_dropWhile, List.takeWhile_append_of_pos isDigits.isDigit,
      List.dropWhile_append_of_pos isDigits.isDigit, noMore.1, noMore.2, List.append_nil]
  obtain ⟨c, left, rfl, -⟩ := isDigits.exists_cons
  rw [JsonValue.readDigits, split]

theorem IsWhole.readWhole (isWhole : IsWhole digits) (ends : Text.StartsNoDigit rest) :
    readWhole (digits ++ rest) = some (digits, rest) := by
  rw [JsonValue.readWhole, isWhole.readDigits ends]
  split
  · next c left _ same =>
    exact absurd (congrArg Prod.fst (Option.some_inj.mp same)) (isWhole.noZero c left)
  · rfl

theorem IsFraction.readFraction (isFraction : IsFraction literal)
    (ends : Text.StartsNoDigit rest) (noPoint : ∀ c ∈ rest.head?, c ≠ '.') :
    readFraction (literal ++ rest) = some (literal, rest) := by
  cases isFraction with
  | absent =>
    rw [List.nil_append, JsonValue.readFraction]
    rintro left rfl
    exact noPoint '.' rfl rfl
  | present isDigits =>
    rw [List.cons_append, JsonValue.readFraction, isDigits.readDigits ends]
    rfl

theorem IsExponent.readExponent (isExponent : IsExponent literal) (ends : EndsValue rest) :
    readExponent (literal ++ rest) = some (literal, rest) := by
  cases isExponent with
  | absent =>
    cases rest with
    | nil => rfl
    | cons c rest =>
      obtain ⟨-, -, noSmall, noLarge⟩ := ends.endsNumber
      exact if_neg (not_or.mpr ⟨noSmall, noLarge⟩)
  | @present letter sign digits isLetter isSign isDigits =>
    have signed : readSign (sign ++ (digits ++ rest)) = (sign, digits ++ rest) := by
      rcases isSign with rfl | rfl | rfl
      · obtain ⟨c, left, rfl, isDigit⟩ := isDigits.exists_cons
        rw [List.nil_append, List.cons_append, readSign]
        · rintro _ same
          cases same
          cases isDigit
        · rintro _ same
          cases same
          cases isDigit
      · rfl
      · rfl
    rw [List.cons_append, List.append_assoc, JsonValue.readExponent, if_pos isLetter, signed]
    show (readDigits (digits ++ rest)).map _ = _
    rw [isDigits.readDigits ends.startsNoDigit]
    rfl

theorem IsExponent.startsNoDigit (isExponent : IsExponent literal) (ends : EndsValue rest) :
    Text.StartsNoDigit (literal ++ rest) ∧ ∀ c ∈ (literal ++ rest).head?, c ≠ '.' := by
  cases isExponent with
  | absent =>
    refine ⟨ends.startsNoDigit, ?_⟩
    cases rest with
    | nil => nofun
    | cons c rest =>
      rintro _ ⟨⟩
      exact ends.endsNumber.2.1
  | present isLetter isSign isDigits =>
    rcases isLetter with rfl | rfl
    all_goals
      constructor
      all_goals
        rintro _ ⟨⟩
        decide

theorem IsFraction.startsNoDigit (isFraction : IsFraction literal)
    (ends : Text.StartsNoDigit rest) : Text.StartsNoDigit (literal ++ rest) := by
  cases isFraction with
  | absent => exact ends
  | present isDigits =>
    rintro _ ⟨⟩
    rfl

theorem IsMagnitude.readMagnitude (isMagnitude : IsMagnitude literal) (ends : EndsValue rest) :
    readMagnitude (literal ++ rest) = some (literal, rest) := by
  obtain ⟨whole, fraction, exponent, isWhole, isFraction, isExponent, rfl⟩ := isMagnitude
  obtain ⟨noDigit, noPoint⟩ := isExponent.startsNoDigit ends
  have readsWhole := isWhole.readWhole (isFraction.startsNoDigit noDigit)
  have readsFraction := isFraction.readFraction noDigit noPoint
  have readsExponent := isExponent.readExponent ends
  simp only [JsonValue.readMagnitude, List.append_assoc, readsWhole, readsFraction, readsExponent,
    Option.bind_eq_bind, Option.bind_some, Option.pure_def]

theorem IsMagnitude.exists_cons (isMagnitude : IsMagnitude literal) :
    ∃ c left, literal = c :: left ∧ c.isDigit = true := by
  obtain ⟨whole, fraction, exponent, isWhole, -, -, rfl⟩ := isMagnitude
  obtain ⟨c, left, rfl, isDigit⟩ := isWhole.exists_cons
  exact ⟨c, left ++ fraction ++ exponent, by simp, isDigit⟩

theorem IsNumber.readNumber (isNumber : IsNumber literal) (ends : EndsValue rest) :
    readNumber (literal ++ rest) = some (literal, rest) := by
  rcases isNumber with isMagnitude | ⟨magnitude, isMagnitude, rfl⟩
  · have reads := isMagnitude.readMagnitude ends
    obtain ⟨c, left, rfl, isDigit⟩ := isMagnitude.exists_cons
    rw [List.cons_append, JsonValue.readNumber]
    · exact reads
    · rintro _ same
      cases same
      cases isDigit
  · rw [List.cons_append, JsonValue.readNumber, isMagnitude.readMagnitude ends]
    rfl

/-- A number begins with a digit or with a minus. -/
theorem IsNumber.exists_cons (isNumber : IsNumber literal) :
    ∃ c left, literal = c :: left ∧ (c.isDigit = true ∨ c = '-') := by
  rcases isNumber with isMagnitude | ⟨magnitude, -, rfl⟩
  · obtain ⟨c, left, rfl, isDigit⟩ := isMagnitude.exists_cons
    exact ⟨c, left, rfl, .inl isDigit⟩
  · exact ⟨'-', magnitude, rfl, .inr rfl⟩

end

/-! ### Values -/

/-- Only gaps. -/
def IsGaps (chars : List Char) : Prop :=
  ∀ c ∈ chars, isGap c = true

mutual

/-- How a value is written. -/
inductive Spells : JsonValue → List Char → Prop where
  | null : Spells .null ['n', 'u', 'l', 'l']
  | yes : Spells (.bool true) ['t', 'r', 'u', 'e']
  | no : Spells (.bool false) ['f', 'a', 'l', 's', 'e']
  | number {literal : List Char} (isNumber : IsNumber literal) : Spells (.number literal) literal
  | string {content : Option String} {chars : List Char} (spelled : SpellsString content chars) :
      Spells (.string content) chars
  | noItems {gap : List Char} (isGap : IsGaps gap) : Spells (.array []) ('[' :: (gap ++ [']']))
  | items {items : List JsonValue} {chars : List Char} (spelled : SpellsItems items chars) :
      Spells (.array items) ('[' :: (chars ++ [']']))
  | noMembers {gap : List Char} (isGap : IsGaps gap) : Spells (.object []) ('{' :: (gap ++ ['}']))
  | members {members : List (Option String × JsonValue)} {chars : List Char}
      (spelled : SpellsMembers members chars) : Spells (.object members) ('{' :: (chars ++ ['}']))

/-- How a value is written between gaps. -/
inductive SpellsBetween : JsonValue → List Char → Prop where
  | gaps {value : JsonValue} {before chars after : List Char} (isBefore : IsGaps before)
      (spelled : Spells value chars) (isAfter : IsGaps after) :
      SpellsBetween value (before ++ (chars ++ after))

/-- How one item or more are written, with commas between them. -/
inductive SpellsItems : List JsonValue → List Char → Prop where
  | last {item : JsonValue} {chars : List Char} (spelled : SpellsBetween item chars) :
      SpellsItems [item] chars
  | more {item : JsonValue} {items : List JsonValue} {chars others : List Char}
      (spelled : SpellsBetween item chars) (goesOn : SpellsItems items others) :
      SpellsItems (item :: items) (chars ++ ',' :: others)

/-- How a member is written. -/
inductive SpellsMember : Option String × JsonValue → List Char → Prop where
  | pair {name : Option String} {value : JsonValue} {before quoted after chars : List Char}
      (isBefore : IsGaps before) (named : SpellsString name quoted) (isAfter : IsGaps after)
      (spelled : SpellsBetween value chars) :
      SpellsMember (name, value) (before ++ (quoted ++ (after ++ ':' :: chars)))

/-- How one member or more are written, with commas between them. -/
inductive SpellsMembers : List (Option String × JsonValue) → List Char → Prop where
  | last {member : Option String × JsonValue} {chars : List Char}
      (spelled : SpellsMember member chars) : SpellsMembers [member] chars
  | more {member : Option String × JsonValue} {members : List (Option String × JsonValue)}
      {chars others : List Char} (spelled : SpellsMember member chars)
      (goesOn : SpellsMembers members others) :
      SpellsMembers (member :: members) (chars ++ ',' :: others)

end

/-- The text is one value between gaps. -/
def IsTextOf (value : JsonValue) (text : String) : Prop :=
  SpellsBetween value text.toList

/-! ### Gaps -/

theorem isGap_eq_false_of_isDigit {c : Char} (isDigit : c.isDigit = true) : isGap c = false := by
  cases gap : isGap c with
  | false => rfl
  | true => rcases isGap_iff.mp gap with rfl | rfl | rfl | rfl <;> cases isDigit

theorem skipGap_cons {c : Char} (noGap : isGap c = false) (rest : List Char) :
    skipGap (c :: rest) = c :: rest :=
  List.dropWhile_cons_of_neg (Bool.eq_false_iff.mp noGap)

theorem readMark_self (mark : Char) (noGap : isGap mark = false) (rest : List Char) :
    readMark mark (mark :: rest) = some rest := by
  simp only [readMark, skipGap_cons noGap, if_true]

theorem readMark_other {mark c : Char} (noGap : isGap c = false) (other : c ≠ mark)
    (rest : List Char) : readMark mark (c :: rest) = none := by
  simp only [readMark, skipGap_cons noGap, if_neg other]

section

variable {gap : List Char} (isGaps : IsGaps gap) (rest : List Char)

include isGaps

theorem IsGaps.skipGap : skipGap (gap ++ rest) = skipGap rest :=
  List.dropWhile_append_of_pos isGaps

theorem IsGaps.readMark (mark : Char) : readMark mark (gap ++ rest) = readMark mark rest := by
  rw [JsonValue.readMark, isGaps.skipGap, JsonValue.readMark]

theorem IsGaps.readValue (fuel : Nat) : readValue fuel (gap ++ rest) = readValue fuel rest := by
  cases fuel with
  | zero => rfl
  | succ fuel => rw [JsonValue.readValue, isGaps.skipGap, JsonValue.readValue]

theorem IsGaps.endsValue {rest : List Char} (ends : EndsValue rest) : EndsValue (gap ++ rest) := by
  cases gap with
  | nil => exact ends
  | cons c gap =>
    rintro _ ⟨⟩
    exact .inl (isGaps c List.mem_cons_self)

end

theorem endsValue_cons {mark : Char} (isMark : mark = ',' ∨ mark = ']' ∨ mark = '}')
    (rest : List Char) : EndsValue (mark :: rest) := by
  rintro _ ⟨⟩
  exact .inr isMark

/-! ### Where a value begins -/

/-- A value begins with a character that is neither a gap nor the end of a list. -/
theorem Spells.exists_cons {value : JsonValue} {chars : List Char} (spelled : Spells value chars) :
    ∃ c left, chars = c :: left ∧ isGap c = false ∧ c ≠ ']' := by
  cases spelled with
  | number isNumber =>
    obtain ⟨c, left, rfl, isDigit | rfl⟩ := isNumber.exists_cons
    · refine ⟨c, left, rfl, isGap_eq_false_of_isDigit isDigit, ?_⟩
      rintro rfl
      cases isDigit
    · exact ⟨'-', left, rfl, by decide, by decide⟩
  | string spelled =>
    obtain ⟨pieces, spellings, -, -, rfl⟩ := spelled
    exact ⟨_, _, rfl, by decide, by decide⟩
  | _ => exact ⟨_, _, rfl, by decide, by decide⟩

theorem SpellsItems.noEnd {items : List JsonValue} {chars : List Char}
    (spelled : SpellsItems items chars) (rest : List Char) :
    readMark ']' (chars ++ rest) = none := by
  have begins : ∀ {item chars}, SpellsBetween item chars → ∀ rest,
      readMark ']' (chars ++ rest) = none := by
    rintro item _ ⟨isBefore, spelled, -⟩ rest
    obtain ⟨c, left, rfl, noGap, other⟩ := spelled.exists_cons
    rw [List.append_assoc, isBefore.readMark]
    exact readMark_other noGap other _
  cases spelled with
  | last spelled => exact begins spelled rest
  | more spelled _ =>
    rw [List.append_assoc]
    exact begins spelled _

theorem SpellsMembers.noEnd {members : List (Option String × JsonValue)} {chars : List Char}
    (spelled : SpellsMembers members chars) (rest : List Char) :
    readMark '}' (chars ++ rest) = none := by
  have begins : ∀ {member chars}, SpellsMember member chars → ∀ rest,
      readMark '}' (chars ++ rest) = none := by
    rintro _ _ ⟨isBefore, ⟨pieces, spellings, -, -, rfl⟩, -, -⟩ rest
    rw [List.append_assoc, isBefore.readMark]
    exact readMark_other rfl (by decide) _
  cases spelled with
  | last spelled => exact begins spelled rest
  | more spelled _ =>
    rw [List.append_assoc]
    exact begins spelled _

/-! ### All values -/

section

variable {fuel : Nat} {input left rest : List Char}

theorem readValue_array {items : List JsonValue} (noEnd : readMark ']' input = none)
    (reads : readItems fuel input = some (items, rest)) :
    readValue (fuel + 1) ('[' :: input) = some (.array items, rest) := by
  have noGap : skipGap ('[' :: input) = '[' :: input := skipGap_cons rfl input
  simp only [readValue, noGap, noEnd, reads, Option.map_some]

theorem readValue_object {members : List (Option String × JsonValue)}
    (noEnd : readMark '}' input = none) (reads : readMembers fuel input = some (members, rest)) :
    readValue (fuel + 1) ('{' :: input) = some (.object members, rest) := by
  have noGap : skipGap ('{' :: input) = '{' :: input := skipGap_cons rfl input
  simp only [readValue, noGap, noEnd, reads, Option.map_some]

theorem readItems_last {item : JsonValue} (first : readValue fuel input = some (item, left))
    (ends : readMark ']' left = some rest) :
    readItems (fuel + 1) input = some ([item], rest) := by
  simp only [readItems, first, ends, Option.bind_eq_bind, Option.bind_some, Option.pure_def]

theorem readItems_more {item : JsonValue} {items : List JsonValue} {more : List Char}
    (first : readValue fuel input = some (item, left)) (noEnd : readMark ']' left = none)
    (goesOn : readMark ',' left = some more) (others : readItems fuel more = some (items, rest)) :
    readItems (fuel + 1) input = some (item :: items, rest) := by
  simp only [readItems, first, noEnd, goesOn, others, Option.bind_eq_bind, Option.bind_some,
    Option.pure_def]

/-- A member is read with the name, the colon and the value. -/
def ReadsMember (fuel : Nat) (member : Option String × JsonValue) (input left : List Char) : Prop :=
  ∃ quoted colon begins, readMark '"' input = some quoted ∧
    readContent quoted = some (member.1, colon) ∧ readMark ':' colon = some begins ∧
    readValue fuel begins = some (member.2, left)

theorem readMembers_last {member : Option String × JsonValue}
    (first : ReadsMember fuel member input left) (ends : readMark '}' left = some rest) :
    readMembers (fuel + 1) input = some ([member], rest) := by
  obtain ⟨quoted, colon, begins, quote, name, mark, value⟩ := first
  simp only [readMembers, quote, name, mark, value, ends, Option.bind_eq_bind, Option.bind_some,
    Option.pure_def]

theorem readMembers_more {member : Option String × JsonValue}
    {members : List (Option String × JsonValue)} {more : List Char}
    (first : ReadsMember fuel member input left) (noEnd : readMark '}' left = none)
    (goesOn : readMark ',' left = some more)
    (others : readMembers fuel more = some (members, rest)) :
    readMembers (fuel + 1) input = some (member :: members, rest) := by
  obtain ⟨quoted, colon, begins, quote, name, mark, value⟩ := first
  simp only [readMembers, quote, name, mark, value, noEnd, goesOn, others, Option.bind_eq_bind,
    Option.bind_some, Option.pure_def]

/-- A number is taken for nothing else. -/
theorem IsNumber.readValue {literal : List Char} (isNumber : IsNumber literal)
    (ends : EndsValue rest) :
    readValue (fuel + 1) (literal ++ rest) = some (.number literal, rest) := by
  have reads := isNumber.readNumber ends
  obtain ⟨c, left, rfl, begins⟩ := isNumber.exists_cons
  have noGap : isGap c = false := by
    rcases begins with isDigit | rfl
    · exact isGap_eq_false_of_isDigit isDigit
    · rfl
  rw [JsonValue.readValue, List.cons_append, skipGap_cons noGap]
  split
  case h_7 =>
    rw [← List.cons_append, reads]
    rfl
  -- No other value begins with a digit or with a minus.
  all_goals
    next same =>
      obtain rfl := (List.cons.inj same).1
      exact absurd begins (by decide)

theorem SpellsString.readValue {content : Option String} {chars : List Char}
    (spelled : SpellsString content chars) :
    readValue (fuel + 1) (chars ++ rest) = some (.string content, rest) := by
  obtain ⟨left, begins, reads⟩ := spelled.readContent rest
  rw [begins, JsonValue.readValue, skipGap_cons rfl]
  show (JsonValue.readContent left).map _ = _
  rw [reads]
  rfl

end

mutual

/-- Every value is read if there are two steps for each of its characters. -/
theorem Spells.readValue {value : JsonValue} {chars : List Char} (spelled : Spells value chars)
    (fuel : Nat) (enough : 2 * chars.length ≤ fuel + 1) {rest : List Char}
    (ends : EndsValue rest) : readValue (fuel + 1) (chars ++ rest) = some (value, rest) := by
  match spelled with
  | .null => rfl
  | .yes => rfl
  | .no => rfl
  | .number isNumber => exact isNumber.readValue ends
  | .string spelled => exact spelled.readValue
  | @Spells.noItems gap isGaps =>
    have isEnd : readMark ']' (gap ++ [']'] ++ rest) = some rest := by
      rw [List.append_assoc, isGaps.readMark]
      exact readMark_self ']' rfl rest
    have noGap : skipGap ('[' :: (gap ++ [']'] ++ rest)) = '[' :: (gap ++ [']'] ++ rest) :=
      skipGap_cons rfl _
    simp only [List.cons_append, JsonValue.readValue, noGap, isEnd]
  | @Spells.noMembers gap isGaps =>
    have isEnd : readMark '}' (gap ++ ['}'] ++ rest) = some rest := by
      rw [List.append_assoc, isGaps.readMark]
      exact readMark_self '}' rfl rest
    have noGap : skipGap ('{' :: (gap ++ ['}'] ++ rest)) = '{' :: (gap ++ ['}'] ++ rest) :=
      skipGap_cons rfl _
    simp only [List.cons_append, JsonValue.readValue, noGap, isEnd]
  | .items spelled =>
    simp only [List.length_cons, List.length_append, List.length_nil] at enough
    obtain ⟨fuel, rfl⟩ : ∃ less, fuel = less + 2 := Nat.exists_eq_add_of_le' (by omega)
    have reads := spelled.readItems fuel (by omega) rest
    rw [List.cons_append, List.append_assoc]
    exact readValue_array (spelled.noEnd _) reads
  | .members spelled =>
    simp only [List.length_cons, List.length_append, List.length_nil] at enough
    obtain ⟨fuel, rfl⟩ : ∃ less, fuel = less + 2 := Nat.exists_eq_add_of_le' (by omega)
    have reads := spelled.readMembers fuel (by omega) rest
    rw [List.cons_append, List.append_assoc]
    exact readValue_object (spelled.noEnd _) reads

theorem SpellsBetween.readValue {value : JsonValue} {chars : List Char}
    (spelled : SpellsBetween value chars) (fuel : Nat) (enough : 2 * chars.length ≤ fuel + 1)
    {rest : List Char} (ends : EndsValue rest) :
    ∃ gap, IsGaps gap ∧ readValue (fuel + 1) (chars ++ rest) = some (value, gap ++ rest) := by
  match spelled with
  | @SpellsBetween.gaps _ before chars after isBefore spelled isAfter =>
    simp only [List.length_append] at enough
    have reads := spelled.readValue fuel (by omega) (isAfter.endsValue ends)
    refine ⟨after, isAfter, ?_⟩
    rw [List.append_assoc, List.append_assoc, isBefore.readValue, reads]

theorem SpellsItems.readItems {items : List JsonValue} {chars : List Char}
    (spelled : SpellsItems items chars) (fuel : Nat) (enough : 2 * chars.length ≤ fuel + 1)
    (rest : List Char) : readItems (fuel + 2) (chars ++ ']' :: rest) = some (items, rest) := by
  match spelled with
  | .last spelled =>
    obtain ⟨gap, isGaps, reads⟩ := spelled.readValue fuel enough
      (endsValue_cons (.inr (.inl rfl)) rest)
    refine readItems_last reads ?_
    rw [isGaps.readMark, readMark_self _ rfl]
  | .more spelled goesOn =>
    rw [List.length_append, List.length_cons] at enough
    obtain ⟨fuel, rfl⟩ : ∃ less, fuel = less + 1 := Nat.exists_eq_add_one.mpr (by omega)
    rw [List.append_assoc]
    obtain ⟨gap, isGaps, reads⟩ := spelled.readValue (fuel + 1) (by omega)
      (endsValue_cons (.inl rfl) _)
    refine readItems_more reads ?_ ?_ (goesOn.readItems fuel (by omega) rest)
    · rw [isGaps.readMark]
      exact readMark_other rfl (by decide) _
    · rw [isGaps.readMark]
      exact readMark_self ',' rfl _

theorem SpellsMember.readsMember {member : Option String × JsonValue} {chars : List Char}
    (spelled : SpellsMember member chars) (fuel : Nat) (enough : 2 * chars.length ≤ fuel + 1)
    {rest : List Char} (ends : EndsValue rest) :
    ∃ gap, IsGaps gap ∧ ReadsMember (fuel + 1) member (chars ++ rest) (gap ++ rest) := by
  match spelled with
  | @SpellsMember.pair name value before quoted after chars isBefore named isAfter spelled =>
    simp only [List.length_append, List.length_cons] at enough
    obtain ⟨gap, isGaps, reads⟩ := spelled.readValue fuel (by omega) ends
    obtain ⟨left, begins, content⟩ := named.readContent (after ++ ':' :: (chars ++ rest))
    refine ⟨gap, isGaps, left, _, chars ++ rest, ?_, content, ?_, reads⟩
    · simp only [List.append_assoc, List.cons_append]
      rw [isBefore.readMark, begins, readMark_self '"' rfl]
    · rw [isAfter.readMark, readMark_self ':' rfl]

theorem SpellsMembers.readMembers {members : List (Option String × JsonValue)} {chars : List Char}
    (spelled : SpellsMembers members chars) (fuel : Nat) (enough : 2 * chars.length ≤ fuel + 1)
    (rest : List Char) :
    readMembers (fuel + 2) (chars ++ '}' :: rest) = some (members, rest) := by
  match spelled with
  | .last spelled =>
    obtain ⟨gap, isGaps, reads⟩ := spelled.readsMember fuel enough
      (endsValue_cons (.inr (.inr rfl)) rest)
    refine readMembers_last reads ?_
    rw [isGaps.readMark, readMark_self '}' rfl]
  | .more spelled goesOn =>
    rw [List.length_append, List.length_cons] at enough
    obtain ⟨fuel, rfl⟩ : ∃ less, fuel = less + 1 := Nat.exists_eq_add_one.mpr (by omega)
    rw [List.append_assoc]
    obtain ⟨gap, isGaps, reads⟩ := spelled.readsMember (fuel + 1) (by omega)
      (endsValue_cons (.inl rfl) _)
    refine readMembers_more reads ?_ ?_ (goesOn.readMembers fuel (by omega) rest)
    · rw [isGaps.readMark]
      exact readMark_other rfl (by decide) _
    · rw [isGaps.readMark]
      exact readMark_self ',' rfl _

end

/-- Every JSON text is read as the value that it spells. -/
theorem IsTextOf.ofText? {value : JsonValue} {text : String} (spelled : IsTextOf value text) :
    ofText? text = some value := by
  obtain ⟨gap, isGaps, reads⟩ := spelled.readValue (2 * text.toList.length + 1) (by omega)
    endsValue_nil
  have noMore : skipGap (gap ++ []) = [] := isGaps.skipGap []
  rw [List.append_nil] at reads noMore
  rw [JsonValue.ofText?, ofChars?, reads]
  simp only [List.append_nil, noMore, List.isEmpty_nil, if_true]

end OperatorDesk.JsonValue
