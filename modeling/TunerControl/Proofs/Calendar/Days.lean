import Mathlib.Tactic.IntervalCases
import Mathlib.Tactic.Linarith
import Mathlib.Tactic.SplitIfs
import TunerControl.Calendar.Clock

/-! Days and dates: the days from the first day of year one stand for the dates of the calendar, one for
each, and the next day for the next date. -/

namespace TunerControl.Calendar

/-- The leap day of a year makes up for the quotients that grow in it. -/
theorem yearLength_add (years : Nat) :
    yearLength (years + 1) + (years + 1) / 100 + years / 4 + years / 400 =
      365 + years / 100 + (years + 1) / 4 + (years + 1) / 400 := by
  -- Each quotient grows by one exactly in the years that its divisor divides.
  have fours : (years + 1) % 100 = 0 → (years + 1) % 4 = 0 := by omega
  have hundreds : (years + 1) % 400 = 0 → (years + 1) % 100 = 0 := by omega
  simp only [yearLength, isLeap, Nat.succ_div, Nat.dvd_iff_mod_eq_zero, Bool.and_eq_true,
    Bool.or_eq_true, decide_eq_true_eq]
  split_ifs <;> omega

/-- The days before a year, with nothing taken off. -/
theorem daysBeforeYear_add (years : Nat) :
    daysBeforeYear (years + 1) + years / 100 = 365 * years + years / 4 + years / 400 := by
  -- There are no more hundredth years than fourth ones, so that the difference is exact.
  unfold daysBeforeYear
  omega

/-- A year ends as many days after its start as it has. -/
theorem daysBeforeYear_succ {year : Nat} (some : 1 ≤ year) :
    daysBeforeYear (year + 1) = daysBeforeYear year + yearLength year := by
  -- What the quotients grow by is what the year has beyond 365 days.
  obtain ⟨years, rfl⟩ := Nat.exists_eq_add_of_le' some
  have before := daysBeforeYear_add years
  have after := daysBeforeYear_add (years + 1)
  have leap := yearLength_add years
  linarith

/-- The days before a year differ by less than two from as many years of the mean length. -/
theorem daysBeforeYear_mean (years : Nat) :
    146097 * years ≤ 400 * daysBeforeYear (years + 1) + 700 ∧
      400 * daysBeforeYear (years + 1) ≤ 146097 * years + 396 := by
  -- Only the remainders of the three quotients make a difference.
  have exact := daysBeforeYear_add years
  omega

/-- A later year starts on a later day. -/
theorem daysBeforeYear_mono {year later : Nat} (le : year ≤ later) :
    daysBeforeYear year ≤ daysBeforeYear later := by
  -- A year has more days than any two starts differ from the mean.
  rcases Nat.eq_or_lt_of_le le with rfl | lt
  · exact le_rfl
  · cases year with
    | zero => simp [daysBeforeYear]
    | succ year =>
      cases later with
      | zero => omega
      | succ later =>
        have start := daysBeforeYear_mean year
        have after := daysBeforeYear_mean later
        omega

/-- The year that a day is found to be in has begun, and has not ended. -/
theorem yearOfDay_bounds (day : Nat) :
    daysBeforeYear (yearOfDay day) ≤ day ∧ day < daysBeforeYear (yearOfDay day + 1) := by
  unfold yearOfDay
  dsimp only
  generalize split : 400 * day / 146097 = years
  -- The guess is from the mean length, so that a year more or less makes up for what it misses.
  have guess := daysBeforeYear_mean years
  have above := daysBeforeYear_mean (years + 1 + 1)
  split_ifs with early late
  · -- The guess is one year late, and not the first year, as no day is before that.
    cases years with
    | zero => omega
    | succ years =>
      have below := daysBeforeYear_mean years
      simp only [Nat.add_sub_cancel]
      omega
  · -- The guess is one year early.
    omega
  · -- The guess is the year.
    omega

/-- A day is in the one year that has begun and has not ended. -/
theorem yearOfDay_eq {year day : Nat} (begun : daysBeforeYear year ≤ day)
    (running : day < daysBeforeYear (year + 1)) : yearOfDay day = year := by
  obtain ⟨found, fits⟩ := yearOfDay_bounds day
  -- Any other year has ended before the one, or begins after it.
  by_contra other
  rcases Nat.lt_or_gt_of_ne other with before | after
  · have ended : daysBeforeYear (yearOfDay day + 1) ≤ daysBeforeYear year := daysBeforeYear_mono before
    omega
  · have unbegun : daysBeforeYear (year + 1) ≤ daysBeforeYear (yearOfDay day) :=
      daysBeforeYear_mono after
    omega

/-- The table of the months says how long each of them is. -/
theorem monthLengths_getD (year : Nat) {month : Nat} (first : 1 ≤ month) (last : month ≤ 12) :
    (monthLengths year).getD (month - 1) 0 = monthLength year month := by
  -- Twelve months, each by evaluation.
  interval_cases month <;> rfl

/-- A month has a first day, and none has more than 31. -/
theorem monthLength_bounds (year month : Nat) :
    1 ≤ monthLength year month ∧ monthLength year month ≤ 31 := by
  unfold monthLength
  split
  · -- February, in leap years and in others.
    split_ifs <;> decide
  all_goals decide

/-- One more of some lengths adds the next of them. -/
theorem foldr_take_succ (lengths : List Nat) (i : Nat) :
    (lengths.take (i + 1)).foldr (· + ·) 0 =
      (lengths.take i).foldr (· + ·) 0 + lengths.getD i 0 := by
  -- By induction on the lengths, one step further in each.
  induction lengths generalizing i with
  | nil => simp
  | cons length rest ih =>
    cases i with
    | zero => simp
    | succ i =>
      have shorter := ih i
      simp only [List.take_succ_cons, List.foldr_cons, List.getD_cons_succ] at shorter ⊢
      omega

/-- A month ends as many days after its start as it has. -/
theorem daysBeforeMonth_succ (year : Nat) {month : Nat} (first : 1 ≤ month) (last : month ≤ 12) :
    daysBeforeMonth year (month + 1) = daysBeforeMonth year month + monthLength year month := by
  -- The months before the next one are those before this one and the month itself.
  have grown := foldr_take_succ (monthLengths year) (month - 1)
  rw [monthLengths_getD year first last, Nat.sub_add_cancel first] at grown
  exact grown

/-- The year ends with its last month. -/
theorem daysBeforeMonth_end (year : Nat) : daysBeforeMonth year 13 = yearLength year := by
  -- All twelve lengths are added up, with either length of February.
  unfold daysBeforeMonth monthLengths yearLength
  split_ifs <;> rfl

/-- No month ends after its year. -/
theorem daysBeforeMonth_le (year : Nat) {month : Nat} (last : month ≤ 12) :
    daysBeforeMonth year (month + 1) ≤ yearLength year := by
  -- Each month that is left only adds to the days.
  induction left : 12 - month generalizing month with
  | zero =>
    obtain rfl : month = 12 := by omega
    exact (daysBeforeMonth_end year).le
  | succ rest ih =>
    have shorter : 12 - (month + 1) = rest := by omega
    have later := ih (by omega) shorter
    rw [daysBeforeMonth_succ year (by omega) (by omega)] at later
    omega

/-- The place of a day among the months is found from the days of the months before it. -/
theorem monthAndDay_of_lt {lengths : List Nat} {i day : Nat} (within : day < lengths.getD i 0)
    (month : Nat) :
    monthAndDay month lengths ((lengths.take i).foldr (· + ·) 0 + day) = (month + i, day + 1) := by
  -- The induction follows the search, which passes one month after the other.
  induction lengths generalizing i month with
  | nil => simp at within
  | cons length rest ih =>
    cases i with
    | zero =>
      have fits : day < length := by simpa using within
      simp [monthAndDay, fits]
    | succ i =>
      -- All of the first month is passed, and what is left is a place among the others.
      have left := ih (i := i) (by simpa using within) (month + 1)
      rw [List.take_succ_cons, List.foldr_cons, monthAndDay, if_neg (by omega),
        show ∀ n, length + n + day - length = n + day by omega, left]
      simp only [Prod.mk.injEq, and_true]
      omega

namespace Date

/-- What makes a date one of the calendar. -/
theorem isValid_iff (d : Date) :
    d.isValid = true ↔ 1 ≤ d.year ∧ (1 ≤ d.month ∧ d.month ≤ 12) ∧
      1 ≤ d.day ∧ d.day ≤ monthLength d.year d.month := by
  -- In a month of the year the table and the rule for the lengths agree.
  simp only [isValid, Bool.and_eq_true, decide_eq_true_eq]
  constructor
  · rintro ⟨⟨⟨⟨year, first⟩, last⟩, day⟩, fits⟩
    rw [monthLengths_getD _ first last] at fits
    exact ⟨year, ⟨first, last⟩, day, fits⟩
  · rintro ⟨year, ⟨first, last⟩, day, fits⟩
    rw [monthLengths_getD _ first last]
    exact ⟨⟨⟨⟨year, first⟩, last⟩, day⟩, fits⟩

/-- The day after a date of the calendar is a date of the calendar. -/
theorem isValid_next {d : Date} (valid : d.isValid = true) : d.next.isValid = true := by
  -- The day stays within its month, or it is the first of a month.
  rw [isValid_iff] at valid ⊢
  obtain ⟨year, ⟨first, last⟩, day, fits⟩ := valid
  unfold next
  split_ifs with within turn
  · exact ⟨year, ⟨first, last⟩, Nat.le_add_left 1 _, within⟩
  · exact ⟨year, ⟨Nat.le_add_left 1 _, turn⟩, le_rfl, (monthLength_bounds _ _).1⟩
  · exact ⟨Nat.le_add_left 1 _, ⟨le_rfl, by simp⟩, le_rfl, (monthLength_bounds _ _).1⟩

/-- The day after a date is counted one further. -/
theorem toDay_next {d : Date} (valid : d.isValid = true) : d.next.toDay = d.toDay + 1 := by
  obtain ⟨year, ⟨first, last⟩, day, fits⟩ := d.isValid_iff.mp valid
  have passed := daysBeforeMonth_succ d.year first last
  unfold next
  split_ifs with within turn
  · -- Only the day of the month is one further.
    simp only [toDay]
    omega
  · -- The month is over, and the next one starts.
    simp only [toDay]
    omega
  · -- So is the year, as this was its last month.
    have turned := daysBeforeYear_succ year
    have december : d.month = 12 := by omega
    rw [december] at passed fits within
    rw [daysBeforeMonth_end] at passed
    have start : daysBeforeMonth (d.year + 1) 1 = 0 := rfl
    simp only [toDay, december]
    omega

/-- Each day is that of a date of the calendar. -/
theorem exists_toDay (day : Nat) : ∃ d : Date, d.isValid = true ∧ d.toDay = day := by
  -- The calendar goes on from the first day of year one.
  induction day with
  | zero => exact ⟨⟨1, 1, 1⟩, by decide, by decide⟩
  | succ day ih =>
    obtain ⟨d, valid, rfl⟩ := ih
    exact ⟨d.next, isValid_next valid, toDay_next valid⟩

/-- A date of the calendar is found again from its day. -/
theorem dateOfDay_toDay {d : Date} (valid : d.isValid = true) : dateOfDay d.toDay = d := by
  obtain ⟨year, ⟨first, last⟩, day, fits⟩ := d.isValid_iff.mp valid
  -- The day is behind the start of the year, and within the days of the month.
  have passed := daysBeforeMonth_succ d.year first last
  have whole := daysBeforeMonth_le d.year last
  have turned := daysBeforeYear_succ year
  have found : yearOfDay d.toDay = d.year := by
    apply yearOfDay_eq
    · unfold toDay
      omega
    · unfold toDay
      omega
  have place : d.toDay - daysBeforeYear d.year = daysBeforeMonth d.year d.month + (d.day - 1) := by
    unfold toDay
    omega
  have within : d.day - 1 < (monthLengths d.year).getD (d.month - 1) 0 := by
    rw [monthLengths_getD _ first last]
    omega
  -- So the search for the month stops at the month of the date.
  have split := monthAndDay_of_lt within 1
  unfold dateOfDay
  simp only [found, place]
  unfold daysBeforeMonth
  rw [split]
  simp only [Nat.add_sub_cancel' first, Nat.sub_add_cancel day]

end Date

/-- The date of a day is one of the calendar. -/
theorem isValid_dateOfDay (day : Nat) : (dateOfDay day).isValid = true := by
  -- It is the one that the calendar has for the day.
  obtain ⟨d, valid, rfl⟩ := Date.exists_toDay day
  rw [Date.dateOfDay_toDay valid]
  exact valid

/-- The date of a day is counted as that day. -/
theorem toDay_dateOfDay (day : Nat) : (dateOfDay day).toDay = day := by
  -- The date of the day is the one that the calendar has for it.
  obtain ⟨d, valid, rfl⟩ := Date.exists_toDay day
  rw [Date.dateOfDay_toDay valid]

/-- The date of the next day is the next date. -/
theorem dateOfDay_succ (day : Nat) : dateOfDay (day + 1) = (dateOfDay day).next := by
  -- Both are dates of the calendar for the same day.
  obtain ⟨d, valid, rfl⟩ := Date.exists_toDay day
  rw [← Date.toDay_next valid, Date.dateOfDay_toDay (Date.isValid_next valid),
    Date.dateOfDay_toDay valid]

end TunerControl.Calendar
