/-
This file shows that every moment is read back as it was written. Each part is read up to the mark
behind it: numbers with as many digits as are read at most end by themselves, while a year with a
sign and a fraction end where no further digit stands.
-/

import OperatorDesk.Moment.Printer
import OperatorDesk.Proofs.Moment.Reality

namespace OperatorDesk.Moment

open Text

/-! ### Numbers and marks -/

theorem readPair_padded (number : Nat) (fits : number < 100) (rest : List Char) :
    readPair (paddedDigits 2 number ++ rest) = some (number, rest) := by
  rw [readPair, dropWhile_isBlank_append (paddedDigits_ne_nil 2 number)
    (fun _ => isDigit_of_mem_padded), readNumber?_padded (by decide) fits]

theorem readMark_self (mark : Char) (noBlank : isBlank mark = false) (rest : List Char) :
    readMark mark (mark :: rest) = some rest := by
  rw [readMark, List.dropWhile_cons_of_neg (Bool.eq_false_iff.mp noBlank)]
  exact if_pos rfl

/-! ### Dates -/

/-- A number with any count of digits ends where no further digit stands. -/
theorem readNumber?_padded_all (width number : Nat) {rest : List Char} (ends : StartsNoDigit rest) :
    readNumber? (paddedDigits width number ++ rest).length (paddedDigits width number ++ rest) =
      some (number, rest) := by
  have fits : (paddedDigits width number).length ≤ (paddedDigits width number ++ rest).length := by
    rw [List.length_append]
    exact Nat.le_add_right _ _
  rw [readNumber?_append (paddedDigits_ne_nil width number) (fun _ => isDigit_of_mem_padded) fits
    (Or.inr ends), valueOfDigits_padded]

/-- A year without a sign has four digits. -/
theorem readYear_padded {year : Nat} (fits : year < 10000) (rest : List Char) :
    readYear (paddedDigits 4 year ++ rest) = some ((year : Int), rest) := by
  have number : readNumber? 4 (paddedDigits 4 year ++ rest) = some (year, rest) :=
    readNumber?_padded (by decide) fits rest
  unfold readYear
  rw [dropWhile_isBlank_append (paddedDigits_ne_nil 4 year) (fun _ => isDigit_of_mem_padded)]
  have signless : ∀ sign others, paddedDigits 4 year ++ rest = sign :: others →
      sign.isDigit = true := by
    intro sign others begins
    obtain ⟨c, digits, same⟩ := List.exists_cons_of_ne_nil (paddedDigits_ne_nil 4 year)
    rw [same, List.cons_append] at begins
    obtain ⟨rfl, -⟩ := List.cons.inj begins
    have member : c ∈ paddedDigits 4 year := same ▸ List.mem_cons_self
    exact isDigit_of_mem_padded member
  split
  · next begins => cases signless _ _ begins
  · next begins => cases signless _ _ begins
  · rw [number]
    rfl

theorem readYear_minus (year : Nat) {rest : List Char} (ends : StartsNoDigit rest) :
    readYear ('-' :: (paddedDigits 4 year ++ rest)) = some (-(year : Int), rest) := by
  show (readNumber? _ (paddedDigits 4 year ++ rest)).map _ = _
  rw [readNumber?_padded_all 4 year ends]
  rfl

theorem readYear_plus (year : Nat) {rest : List Char} (ends : StartsNoDigit rest) :
    readYear ('+' :: (paddedDigits 4 year ++ rest)) = some ((year : Int), rest) := by
  show (readNumber? _ (paddedDigits 4 year ++ rest)).map _ = _
  rw [readNumber?_padded_all 4 year ends]
  rfl

theorem readYear_yearText (year : Int) {rest : List Char} (ends : StartsNoDigit rest) :
    readYear ((yearText year).toList ++ rest) = some (year, rest) := by
  unfold yearText
  split
  · next fourDigits =>
    rw [toList_padded, readYear_padded (by omega), Int.toNat_of_nonneg fourDigits.1]
  split
  · next negative =>
    have same : -((-year).toNat : Int) = year := by omega
    rw [String.toList_append, toList_padded]
    show readYear ('-' :: (paddedDigits 4 (-year).toNat ++ rest)) = _
    rw [readYear_minus _ ends, same]
  · next positive =>
    rw [String.toList_append, toList_padded]
    show readYear ('+' :: (paddedDigits 4 year.toNat ++ rest)) = _
    rw [readYear_plus _ ends, Int.toNat_of_nonneg (Int.not_lt.mp positive)]

/-- A date as it is written. -/
def dateChars (date : Date) : List Char :=
  (yearText date.year).toList ++
    '-' :: (paddedDigits 2 date.month ++ '-' :: paddedDigits 2 date.day)

theorem readDate_dateChars {date : Date} (real : date.IsReal) (rest : List Char) :
    readDate (dateChars date ++ rest) = some (date, rest) := by
  have month := readPair_padded date.month (Nat.lt_of_le_of_lt real.month_le (by decide))
    ('-' :: (paddedDigits 2 date.day ++ rest))
  have day := readPair_padded date.day (Nat.lt_of_le_of_lt real.day_le_31 (by decide)) rest
  have year := readYear_yearText date.year (startsNoDigit_cons '-' rfl
    (paddedDigits 2 date.month ++ '-' :: (paddedDigits 2 date.day ++ rest)))
  have mark := readMark_self '-' rfl
  simp only [dateChars, List.append_assoc, List.cons_append, readDate, year, mark, month, day,
    real.ofNumbers?, Option.bind_eq_bind, Option.bind_some, Option.pure_def]

/-! ### Times of day -/

theorem dropWhile_isDigit {rest : List Char} (ends : StartsNoDigit rest) :
    rest.dropWhile Char.isDigit = rest := by
  cases rest with
  | nil => rfl
  | cons c rest => exact List.dropWhile_cons_of_neg (Bool.eq_false_iff.mp (ends c rfl))

/-- A fraction is read back in nanoseconds, however many of its nine digits are written. -/
theorem readFraction_padded {width number : Nat} {rest : List Char} (some : 0 < width)
    (width_le : width ≤ 9) (fits : number < 10 ^ width) (ends : StartsNoDigit rest) :
    readFraction (("." ++ padded width number).toList ++ rest) =
      .some (10 ^ (9 - width) * number, rest) := by
  have size := length_padded some fits
  have digits : leadingDigits 9 (paddedDigits width number ++ rest) = paddedDigits width number :=
    leadingDigits_append (fun _ => isDigit_of_mem_padded) (size.symm ▸ width_le) (Or.inr ends)
  have reads : readFraction ('.' :: (paddedDigits width number ++ rest)) =
      .some (valueOfDigits (paddedDigits width number ++ List.replicate (9 - width) '0'),
        ((paddedDigits width number ++ rest).drop width).dropWhile Char.isDigit) := by
    unfold readFraction
    simp only
    split
    · next none => exact absurd (digits.symm.trans none) (paddedDigits_ne_nil width number)
    · rw [digits, size]
  rw [String.toList_append, toList_padded]
  show readFraction ('.' :: (paddedDigits width number ++ rest)) = _
  rw [reads, valueOfDigits_append, valueOfDigits_padded, valueOfDigits_zeros,
    List.length_replicate, Nat.add_zero, List.drop_left' size, dropWhile_isDigit ends]

/-- Where no point stands, there is no fraction. -/
theorem readFraction_none {rest : List Char} (noPoint : ∀ c ∈ rest.head?, c ≠ '.') :
    readFraction rest = some (0, rest) := by
  unfold readFraction
  split
  · exact absurd rfl (noPoint '.' rfl)
  · rfl

theorem readFraction_fractionText {nanos : Nat} (below : nanos < nanosPerSecond)
    {rest : List Char} (ends : StartsNoDigit rest) (noPoint : ∀ c ∈ rest.head?, c ≠ '.') :
    readFraction ((fractionText nanos).toList ++ rest) = some (nanos, rest) := by
  have bound : nanos < 1000000000 := below
  unfold fractionText
  split
  · next whole =>
    rw [whole]
    exact readFraction_none noPoint
  split
  · next millis =>
    have same : 10 ^ (9 - 3) * (nanos / 1000000) = nanos := by omega
    rw [readFraction_padded (by decide) (by decide) (by omega) ends, same]
  split
  · next micros =>
    have same : 10 ^ (9 - 6) * (nanos / 1000) = nanos := by omega
    rw [readFraction_padded (by decide) (by decide) (by omega) ends, same]
  · have same : 10 ^ (9 - 9) * nanos = nanos := Nat.one_mul nanos
    rw [readFraction_padded (by decide) (by decide) bound ends, same]

/-- A time of day as it is written. -/
def timeChars (moment : Moment) : List Char :=
  paddedDigits 2 moment.hour ++ ':' :: (paddedDigits 2 moment.minute ++
    ':' :: (paddedDigits 2 moment.second ++
      (fractionText (moment.nanos % nanosPerSecond)).toList))

/-- A second is either an ordinary one or the sixtieth, which stands for the fifty-ninth and one
second more. -/
theorem IsTime.second {moment : Moment} (time : IsTime moment.secondOfDay moment.nanos) :
    (moment.second = moment.secondOfDay % 60 ∧ moment.nanos % nanosPerSecond = moment.nanos) ∨
      (moment.second = 60 ∧ moment.secondOfDay % 60 = 59 ∧
        nanosPerSecond + moment.nanos % nanosPerSecond = moment.nanos) := by
  have positive : 0 < nanosPerSecond := by decide
  rcases Nat.lt_or_ge moment.nanos nanosPerSecond with ordinary | isLeap
  · refine Or.inl ⟨?_, Nat.mod_eq_of_lt ordinary⟩
    rw [Moment.second, Nat.div_eq_of_lt ordinary, Nat.add_zero]
  · have last := time.leap isLeap
    have below : moment.nanos - nanosPerSecond < nanosPerSecond := by
      have inSecond := time.nanos_lt
      omega
    have fraction : moment.nanos % nanosPerSecond = moment.nanos - nanosPerSecond := by
      rw [Nat.mod_eq_sub_mod isLeap, Nat.mod_eq_of_lt below]
    have whole : moment.nanos / nanosPerSecond = 1 := by
      rw [Nat.div_eq_sub_div positive isLeap, Nat.div_eq_of_lt below]
    refine Or.inr ⟨?_, last, ?_⟩
    · rw [Moment.second, last, whole]
    · rw [fraction, Nat.add_sub_cancel' isLeap]

theorem readTime_timeChars {moment : Moment} (time : IsTime moment.secondOfDay moment.nanos)
    {rest : List Char} (ends : StartsNoDigit rest) (noPoint : ∀ c ∈ rest.head?, c ≠ '.') :
    readTime (timeChars moment ++ rest) =
      some ((moment.secondOfDay, moment.nanos), rest) := by
  have inDay := time.secondOfDay_lt
  have hourEq : moment.hour = moment.secondOfDay / 3600 := rfl
  have minuteEq : moment.minute = moment.secondOfDay / 60 % 60 := rfl
  have seconds := time.second
  have fits : ¬(23 < moment.hour ∨ 59 < moment.minute ∨ 60 < moment.second) := by omega
  have hour := fun others => readPair_padded moment.hour (by omega) others
  have minute := fun others => readPair_padded moment.minute (by omega) others
  have second := fun others => readPair_padded moment.second (by omega) others
  have fraction := readFraction_fractionText
    (Nat.mod_lt moment.nanos (show 0 < nanosPerSecond by decide)) ends noPoint
  simp only [timeChars, List.append_assoc, List.cons_append, readTime, hour, minute, second,
    fraction, readMark_self ':' rfl, if_neg fits, Option.bind_eq_bind, Option.bind_some,
    Option.pure_def]
  rcases seconds with ⟨ordinary, whole⟩ | ⟨isLeap, last, more⟩
  · have notLeap : moment.second ≠ 60 := by omega
    have same : moment.hour * 3600 + moment.minute * 60 + moment.second = moment.secondOfDay := by
      omega
    rw [if_neg notLeap, same, whole]
  · have same : moment.hour * 3600 + moment.minute * 60 + 59 = moment.secondOfDay := by omega
    rw [if_pos isLeap, same, more]

/-! ### Moments -/

/-- No time of day is moved to reach universal time from itself. -/
theorem shifted?_zero (date : Date) {secondOfDay : Nat} (inDay : secondOfDay < 86400)
    (nanos : Nat) : shifted? date secondOfDay nanos 0 = some { date, secondOfDay, nanos } := by
  have low : ¬(secondOfDay : Int) - 0 < 0 := by omega
  have high : (secondOfDay : Int) - 0 < 86400 := by omega
  rw [shifted?, if_neg low, if_pos high, Int.sub_zero, Int.toNat_natCast]

theorem toList_text (moment : Moment) :
    moment.text.toList = dateChars moment.date ++ 'T' :: (timeChars moment ++ ['Z']) := by
  simp only [text, clockText, String.toList_append, toList_padded, dateChars, timeChars,
    List.append_assoc, List.cons_append]
  rfl

/-- A moment that there is can be read back from its text. -/
theorem ofText?_text {moment : Moment} (real : moment.IsReal) :
    ofText? moment.text = some moment := by
  have date := readDate_dateChars real.date ('T' :: (timeChars moment ++ ['Z']))
  have time := readTime_timeChars real.time (startsNoDigit_cons 'Z' rfl [])
    (by rintro _ ⟨⟩; decide)
  have separator : readSeparator ('T' :: (timeChars moment ++ ['Z'])) = some _ := rfl
  have zone : readZone (['Z'].dropWhile isBlank) = some (0, []) := rfl
  have shifts := shifted?_zero moment.date real.time.secondOfDay_lt moment.nanos
  simp only [ofText?, toList_text, ofChars?, Option.bind_eq_bind, Option.bind_eq_some_iff]
  exact ⟨_, date, _, separator, _, time, _, zone, (if_pos rfl).trans shifts⟩

end OperatorDesk.Moment
