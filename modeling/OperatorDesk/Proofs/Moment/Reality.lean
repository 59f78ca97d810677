/-
This file shows that whatever moment is read lies on a day of the calendar, inside its day, and that
it is a leap second only in the last second of a minute. Moving to universal time keeps this, since
zones lie whole minutes apart.
-/

import OperatorDesk.Moment.Reader
import OperatorDesk.Proofs.Text.Digits

namespace OperatorDesk

/-! ### Days -/

/-- There is such a day. -/
structure Date.IsReal (date : Date) : Prop where
  firstYear_le : firstYear ≤ date.year
  le_lastYear : date.year ≤ lastYear
  one_le_month : 1 ≤ date.month
  month_le : date.month ≤ 12
  one_le_day : 1 ≤ date.day
  day_le : date.day ≤ daysInMonth date.year date.month

namespace Date

variable {date other : Date} {year : Int} {month day : Nat}

theorem IsReal.ofNumbers? (real : date.IsReal) :
    Date.ofNumbers? date.year date.month date.day = some date :=
  if_pos ⟨real.firstYear_le, real.le_lastYear, real.one_le_month, real.month_le, real.one_le_day,
    real.day_le⟩

theorem isReal_of_ofNumbers? (isDay : Date.ofNumbers? year month day = some date) :
    date.IsReal := by
  unfold Date.ofNumbers? at isDay
  split at isDay
  · next numbers =>
    obtain rfl := Option.some_inj.mp isDay
    obtain ⟨firstYear, lastYear, firstMonth, lastMonth, firstDay, lastDay⟩ := numbers
    exact ⟨firstYear, lastYear, firstMonth, lastMonth, firstDay, lastDay⟩
  · cases isDay

theorem one_le_daysInMonth (year : Int) (month : Nat) : 1 ≤ daysInMonth year month := by
  unfold daysInMonth
  split <;> split <;> decide

theorem IsReal.day_le_31 (real : date.IsReal) : date.day ≤ 31 := by
  refine Nat.le_trans real.day_le ?_
  unfold daysInMonth
  split <;> split <;> decide

theorem IsReal.next? (real : date.IsReal) (follows : date.next? = some other) : other.IsReal := by
  unfold Date.next? at follows
  split at follows
  · next sameMonth =>
    obtain rfl := Option.some_inj.mp follows
    exact { real with one_le_day := Nat.succ_pos _, day_le := sameMonth }
  split at follows
  · next _ sameYear =>
    obtain rfl := Option.some_inj.mp follows
    exact { real with
      one_le_month := Nat.succ_pos _, month_le := sameYear
      one_le_day := Nat.le_refl 1, day_le := one_le_daysInMonth _ _ }
  · exact isReal_of_ofNumbers? follows

theorem IsReal.previous? (real : date.IsReal) (precedes : date.previous? = some other) :
    other.IsReal := by
  unfold Date.previous? at precedes
  split at precedes
  · next sameMonth =>
    obtain rfl := Option.some_inj.mp precedes
    exact { real with
      one_le_day := Nat.le_sub_one_of_lt sameMonth
      day_le := Nat.le_trans (Nat.sub_le _ _) real.day_le }
  split at precedes
  · next _ sameYear =>
    obtain rfl := Option.some_inj.mp precedes
    exact { real with
      one_le_month := Nat.le_sub_one_of_lt sameYear
      month_le := Nat.le_trans (Nat.sub_le _ _) real.month_le
      one_le_day := one_le_daysInMonth _ _, day_le := Nat.le_refl _ }
  · exact isReal_of_ofNumbers? precedes

end Date

/-! ### Moments -/

namespace Moment

open Text

/-- There is such a time of day. -/
structure IsTime (secondOfDay nanos : Nat) : Prop where
  secondOfDay_lt : secondOfDay < 86400
  nanos_lt : nanos < 2 * nanosPerSecond
  /-- A leap second is the last second of its minute. -/
  leap : nanosPerSecond ≤ nanos → secondOfDay % 60 = 59

/-- There is such a moment. -/
structure IsReal (moment : Moment) : Prop where
  date : moment.date.IsReal
  time : IsTime moment.secondOfDay moment.nanos

theorem readFraction_lt {chars rest : List Char} {nanos : Nat}
    (reads : readFraction chars = some (nanos, rest)) : nanos < nanosPerSecond := by
  unfold readFraction at reads
  split at reads
  · next chars =>
    have isDigit := leadingDigits_isDigit 9 chars
    have size := length_leadingDigits_le 9 chars
    generalize leadingDigits 9 chars = digits at reads isDigit size
    have filled : ∀ c ∈ digits ++ List.replicate (9 - digits.length) '0', c.isDigit = true := by
      intro c member
      rcases List.mem_append.mp member with isFirst | isZero
      · exact isDigit c isFirst
      · rw [List.eq_of_mem_replicate isZero]
        rfl
    have below := valueOfDigits_lt filled
    rw [List.length_append, List.length_replicate, Nat.add_sub_cancel' size] at below
    split at reads
    · cases reads
    · obtain ⟨rfl, -⟩ := Prod.mk.inj (Option.some_inj.mp reads)
      exact below
  · obtain ⟨rfl, -⟩ := Prod.mk.inj (Option.some_inj.mp reads)
    decide

theorem isTime_of_readTime {chars rest : List Char} {secondOfDay nanos : Nat}
    (reads : readTime chars = some ((secondOfDay, nanos), rest)) : IsTime secondOfDay nanos := by
  simp only [readTime, Option.bind_eq_bind, Option.bind_eq_some_iff] at reads
  obtain ⟨⟨hour, _⟩, -, _, -, ⟨minute, _⟩, -, _, -, ⟨second, _⟩, -, ⟨fraction, _⟩, reads, last⟩ :=
    reads
  have below := readFraction_lt reads
  split at last
  · cases last
  split at last
  all_goals
    obtain ⟨same, -⟩ := Prod.mk.inj (Option.some_inj.mp last)
    obtain ⟨rfl, rfl⟩ := Prod.mk.inj same
    exact { secondOfDay_lt := by omega, nanos_lt := by omega, leap := by omega }

theorem readDistance_minutes {chars rest : List Char} {seconds : Nat}
    (reads : readDistance chars = some (seconds, rest)) : seconds % 60 = 0 ∧ seconds < 86400 := by
  simp only [readDistance, Option.bind_eq_bind, Option.bind_eq_some_iff] at reads
  obtain ⟨⟨hours, _⟩, -, ⟨minutes, _⟩, -, last⟩ := reads
  split at last
  · cases last
  · obtain ⟨rfl, -⟩ := Prod.mk.inj (Option.some_inj.mp last)
    omega

/-- A zone lies whole minutes, and less than a day, from universal time. -/
theorem readZone_minutes {chars rest : List Char} {east : Int}
    (reads : readZone chars = some (east, rest)) :
    east % 60 = 0 ∧ -86400 < east ∧ east < 86400 := by
  unfold readZone at reads
  split at reads
  case h_1 | h_2 =>
    obtain ⟨rfl, -⟩ := Prod.mk.inj (Option.some_inj.mp reads)
    decide
  case h_3 | h_4 | h_5 =>
    obtain ⟨⟨seconds, _⟩, distance, same⟩ := Option.map_eq_some_iff.mp reads
    have minutes := readDistance_minutes distance
    obtain ⟨rfl, -⟩ := Prod.mk.inj same
    omega
  case h_6 =>
    split at reads
    · obtain ⟨rfl, -⟩ := Prod.mk.inj (Option.some_inj.mp reads)
      decide
    · cases reads
  case h_7 => cases reads

/-- Moving by whole minutes leaves a leap second in its place in the minute. -/
theorem isReal_of_shifted? {date : Date} {secondOfDay nanos : Nat} {east : Int} {moment : Moment}
    (real : date.IsReal) (time : IsTime secondOfDay nanos) (minutes : east % 60 = 0)
    (low : -86400 < east) (high : east < 86400)
    (moves : shifted? date secondOfDay nanos east = some moment) : moment.IsReal := by
  have inDay := time.secondOfDay_lt
  have moved : ∀ second : Int, 0 ≤ second → second < 86400 →
      second % 60 = (secondOfDay : Int) % 60 → IsTime second.toNat nanos := by
    intro second nonnegative less same
    refine { secondOfDay_lt := by omega, nanos_lt := time.nanos_lt, leap := fun isLeap => ?_ }
    have last := time.leap isLeap
    omega
  unfold shifted? at moves
  simp only at moves
  split at moves
  · obtain ⟨before, precedes, rfl⟩ := Option.map_eq_some_iff.mp moves
    exact ⟨real.previous? precedes, moved _ (by omega) (by omega) (by omega)⟩
  split at moves
  · obtain rfl := Option.some_inj.mp moves
    exact ⟨real, moved _ (by omega) (by omega) (by omega)⟩
  · obtain ⟨after, follows, rfl⟩ := Option.map_eq_some_iff.mp moves
    exact ⟨real.next? follows, moved _ (by omega) (by omega) (by omega)⟩

theorem isReal_of_readDate {chars rest : List Char} {date : Date}
    (reads : readDate chars = some (date, rest)) : date.IsReal := by
  simp only [readDate, Option.bind_eq_bind, Option.bind_eq_some_iff] at reads
  obtain ⟨_, -, _, -, _, -, _, -, _, -, _, isDay, last⟩ := reads
  obtain ⟨rfl, -⟩ := Prod.mk.inj (Option.some_inj.mp last)
  exact Date.isReal_of_ofNumbers? isDay

/-- Whatever text is read, there is the moment that it stands for. -/
theorem isReal_of_ofText? {text : String} {moment : Moment} (reads : ofText? text = some moment) :
    moment.IsReal := by
  simp only [ofText?, ofChars?, Option.bind_eq_bind, Option.bind_eq_some_iff] at reads
  obtain ⟨⟨date, _⟩, dateReads, _, -, ⟨⟨secondOfDay, nanos⟩, _⟩, timeReads, ⟨east, _⟩, zoneReads,
    last⟩ := reads
  obtain ⟨minutes, low, high⟩ := readZone_minutes zoneReads
  split at last
  · exact isReal_of_shifted? (isReal_of_readDate dateReads) (isTime_of_readTime timeReads)
      minutes low high last
  · cases last

end Moment

end OperatorDesk
