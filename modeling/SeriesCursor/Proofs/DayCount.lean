import Mathlib.Tactic.IntervalCases
import SeriesCursor.Calendar

/-!
Days counted and days found. The count of a date adds up years and months from the first of January, and goes up by
one from each date to the next, at the end of a leap year's February as elsewhere. The date of a count takes off cycles
of years that start on the first of March; what is found is a date, and has that count.
-/

namespace SeriesCursor

namespace Calendar

def leapDays (year : Int) : Nat :=
  if isLeap year then 1 else 0

def IsDate (year : Int) (month day : Nat) : Prop :=
  1 ≤ month ∧ month ≤ 12 ∧ 1 ≤ day ∧ day ≤ daysInMonth year month

def nextDate (year : Int) (month day : Nat) : Int × Nat × Nat :=
  if day < daysInMonth year month then (year, month, day + 1)
  else if month < 12 then (year, month + 1, 1)
  else (year + 1, 1, 1)

/-- Whether a count of days is zero on the first of January 1970 and one more on each date than on the date before. -/
structure CountsDays (count : Int → Nat → Nat → Int) : Prop where
  start : count 1970 1 1 = 0
  next : ∀ year month day, IsDate year month day →
    count (nextDate year month day).1 (nextDate year month day).2.1 (nextDate year month day).2.2 =
      count year month day + 1

section

variable {year later : Int} {month other day dayOther : Nat}

theorem isLeap_iff : isLeap year = true ↔ year % 4 = 0 ∧ (year % 100 ≠ 0 ∨ year % 400 = 0) := by
  simp [isLeap]

theorem leapDays_eq (year : Int) :
    leapDays year = if year % 4 = 0 ∧ (year % 100 ≠ 0 ∨ year % 400 = 0) then 1 else 0 := by
  simp only [leapDays, isLeap_iff]

theorem daysInMonth_february (year : Int) : daysInMonth year 2 = 28 + leapDays year := by
  cases leap : isLeap year <;> simp [leapDays, daysInMonth, leap]

theorem daysBeforeYear_succ (year : Int) : daysBeforeYear (year + 1) = daysBeforeYear year + 365 + leapDays year := by
  simp only [daysBeforeYear, leapDays_eq]
  split <;> omega

theorem daysBeforeMonth_succ (year : Int) (counted : 1 ≤ month) :
    daysBeforeMonth year (month + 1) = daysBeforeMonth year month + daysInMonth year month := by
  obtain ⟨before, rfl⟩ := Nat.exists_eq_add_of_le' counted
  rfl

theorem daysBeforeMonth_thirteen (year : Int) : daysBeforeMonth year 13 = 365 + leapDays year := by
  simp only [daysBeforeMonth, daysInMonth_february]
  simp only [daysInMonth]
  omega

theorem daysBeforeMonth_of_lt (year : Int) (counted : 1 ≤ month) (order : month < other) :
    daysBeforeMonth year month + daysInMonth year month ≤ daysBeforeMonth year other := by
  induction order with
  | refl => exact Nat.le_of_eq (daysBeforeMonth_succ year counted).symm
  | @step other order ih =>
    rw [daysBeforeMonth_succ year (Nat.le_trans counted (Nat.le_of_succ_le order))]
    exact Nat.le_add_right_of_le ih

theorem daysInMonth_march (year : Int) {months : Nat} (few : months < 10) :
    (153 * months + 2) / 5 + daysInMonth year (months + 3) = (153 * (months + 1) + 2) / 5 := by
  interval_cases months <;> rfl

theorem daysBeforeMonth_march (year : Int) {months : Nat} (few : months < 10) :
    daysBeforeMonth year (months + 3) = 59 + leapDays year + (153 * months + 2) / 5 := by
  induction months with
  | zero =>
    have january : daysBeforeMonth year 2 = 31 := rfl
    rw [Nat.zero_add, @daysBeforeMonth_succ 2 year (by decide), january, daysInMonth_february]
    omega
  | succ months ih =>
    have before := ih (Nat.lt_of_succ_lt few)
    have month := daysInMonth_march year (Nat.lt_of_succ_lt few)
    rw [Nat.add_right_comm, @daysBeforeMonth_succ (months + 3) year (by omega), before]
    omega

theorem IsDate.day_of_year (date : IsDate year month day) :
    1 ≤ daysBeforeMonth year month + day ∧ daysBeforeMonth year month + day ≤ 365 + leapDays year := by
  obtain ⟨counted, inYear, first, inMonth⟩ := date
  have rest := daysBeforeMonth_of_lt year counted (Nat.lt_succ_of_le inYear)
  rw [daysBeforeMonth_thirteen] at rest
  omega

theorem daysBeforeYear_of_lt (order : year < later) :
    daysBeforeYear year + 365 + leapDays year ≤ daysBeforeYear later := by
  rw [← daysBeforeYear_succ]
  simp only [daysBeforeYear]
  omega

theorem daysFromEpoch_lt (date : IsDate year month day) (dateOther : IsDate later other dayOther)
    (before : year < later ∨ year = later ∧ (month < other ∨ month = other ∧ day < dayOther)) :
    daysFromEpoch year month day < daysFromEpoch later other dayOther := by
  have inYear := date.day_of_year
  have inLater := dateOther.day_of_year
  obtain ⟨counted, _, _, inMonth⟩ := date
  obtain ⟨_, _, first, _⟩ := dateOther
  unfold daysFromEpoch
  rcases before with years | ⟨rfl, months | ⟨rfl, days⟩⟩
  · have apart := daysBeforeYear_of_lt years
    omega
  · have apart := daysBeforeMonth_of_lt year counted months
    omega
  · omega

theorem start_le_daysFromEpoch_iff (date : IsDate year month day) :
    daysFromEpoch later 1 1 ≤ daysFromEpoch year month day ↔ later ≤ year := by
  have inYear := date.day_of_year
  have start : daysBeforeMonth later 1 = 0 := rfl
  unfold daysFromEpoch
  rcases Int.lt_trichotomy year later with before | rfl | after
  · have apart := daysBeforeYear_of_lt before
    omega
  · omega
  · have apart := daysBeforeYear_of_lt after
    omega

theorem daysFromEpoch_nextDate (date : IsDate year month day) :
    daysFromEpoch (nextDate year month day).1 (nextDate year month day).2.1 (nextDate year month day).2.2 =
      daysFromEpoch year month day + 1 := by
  obtain ⟨counted, inYear, first, inMonth⟩ := date
  rw [nextDate]
  split
  · simp only [daysFromEpoch]
    omega
  · rename_i endsMonth
    split
    · simp only [daysFromEpoch, daysBeforeMonth_succ year counted]
      omega
    · rename_i endsYear
      obtain rfl : month = 12 := by omega
      have whole := daysBeforeMonth_thirteen year
      rw [daysBeforeMonth_succ year counted] at whole
      simp only [daysFromEpoch, daysBeforeYear_succ]
      have none : daysBeforeMonth (year + 1) 1 = 0 := rfl
      omega

end

theorem countsDays_daysFromEpoch : CountsDays daysFromEpoch where
  start := by decide
  next _ _ _ := daysFromEpoch_nextDate

/-- A day told by the cycles of years that have gone by since the first of March of year zero. -/
structure Cycles where
  era : Int
  century : Nat
  fours : Nat
  year : Nat
  day : Nat

namespace Cycles

def ofDays (days : Int) : Cycles :=
  let sinceMarch := days + epochFromMarch
  let dayOfEra := (sinceMarch % 146097).toNat
  let century := min (dayOfEra / 36524) 3
  let dayOfCentury := dayOfEra - 36524 * century
  let fours := dayOfCentury / 1461
  let dayOfFour := dayOfCentury - 1461 * fours
  let year := min (dayOfFour / 365) 3
  ⟨sinceMarch / 146097, century, fours, year, dayOfFour - 365 * year⟩

def march (cycles : Cycles) : Int :=
  400 * cycles.era + 100 * cycles.century + 4 * cycles.fours + cycles.year

def total (cycles : Cycles) : Int :=
  146097 * cycles.era + 36524 * cycles.century + 1461 * cycles.fours + 365 * cycles.year + cycles.day

def months (cycles : Cycles) : Nat :=
  -- from March on, every five months have 153 days
  (5 * cycles.day + 2) / 153

def date (cycles : Cycles) : Int × Nat × Nat :=
  let month := if cycles.months < 10 then cycles.months + 3 else cycles.months - 9
  (if month ≤ 2 then cycles.march + 1 else cycles.march, month,
    cycles.day - (153 * cycles.months + 2) / 5 + 1)

/-- No cycle is longer than the next larger one, and the day after a full year is the leap day of one that has it. -/
structure InBounds (cycles : Cycles) : Prop where
  century : cycles.century ≤ 3
  fours : cycles.fours ≤ 24
  year : cycles.year ≤ 3
  day : cycles.day ≤ 365
  leap : cycles.day = 365 → cycles.year = 3 ∧ (cycles.fours = 24 → cycles.century = 3)

theorem inBounds_ofDays (days : Int) : (ofDays days).InBounds := by
  constructor <;> simp only [ofDays] <;> omega

theorem total_ofDays (days : Int) : (ofDays days).total = days + epochFromMarch := by
  simp only [total, ofDays]
  omega

variable {cycles : Cycles}

theorem daysBeforeYear_march (inBounds : cycles.InBounds) :
    daysBeforeYear cycles.march + leapDays cycles.march + cycles.day = cycles.total + 1 := by
  obtain ⟨century, fours, year, _, _⟩ := inBounds
  simp only [daysBeforeYear, leapDays_eq, march, total]
  split <;> omega

theorem leapDays_march_succ (inBounds : cycles.InBounds) (last : cycles.day = 365) :
    leapDays (cycles.march + 1) = 1 := by
  obtain ⟨century, fours, _, _, leap⟩ := inBounds
  obtain ⟨fourth, fourthCentury⟩ := leap last
  rw [leapDays_eq, if_pos]
  simp only [march, fourth]
  omega

theorem day_of_months (cycles : Cycles) :
    (153 * cycles.months + 2) / 5 ≤ cycles.day ∧ cycles.day < (153 * (cycles.months + 1) + 2) / 5 := by
  unfold months
  omega

theorem date_cases (inBounds : cycles.InBounds) :
    (cycles.months < 10 ∧
      cycles.date = (cycles.march, cycles.months + 3, cycles.day - (153 * cycles.months + 2) / 5 + 1)) ∨
    (cycles.months = 10 ∧ cycles.date = (cycles.march + 1, 1, cycles.day - 306 + 1)) ∨
    (cycles.months = 11 ∧ cycles.date = (cycles.march + 1, 2, cycles.day - 337 + 1)) := by
  have bound : cycles.months ≤ 11 := by
    have inYear := inBounds.day
    unfold months
    omega
  rw [date]
  by_cases few : cycles.months < 10
  · rw [if_pos few, if_neg (by omega)]
    exact .inl ⟨few, rfl⟩
  · have late : cycles.months = 10 ∨ cycles.months = 11 := by omega
    rcases late with january | february
    · rw [january]
      exact .inr (.inl ⟨rfl, rfl⟩)
    · rw [february]
      exact .inr (.inr ⟨rfl, rfl⟩)

theorem isDate_date (inBounds : cycles.InBounds) : IsDate cycles.date.1 cycles.date.2.1 cycles.date.2.2 := by
  obtain ⟨start, stop⟩ := cycles.day_of_months
  rcases date_cases inBounds with ⟨few, date⟩ | ⟨january, date⟩ | ⟨february, date⟩
  · have length := daysInMonth_march cycles.march few
    rw [date]
    dsimp only [IsDate]
    omega
  · have length : daysInMonth (cycles.march + 1) 1 = 31 := rfl
    rw [date]
    rw [january] at start stop
    dsimp only [IsDate]
    omega
  · have length := daysInMonth_february (cycles.march + 1)
    have leap := leapDays_march_succ inBounds
    have inYear := inBounds.day
    rw [date]
    rw [february] at start stop
    dsimp only [IsDate]
    omega

theorem daysFromEpoch_date (inBounds : cycles.InBounds) :
    daysFromEpoch cycles.date.1 cycles.date.2.1 cycles.date.2.2 = cycles.total - epochFromMarch := by
  obtain ⟨start, _⟩ := cycles.day_of_months
  have epoch : daysBeforeYear 1970 = 719528 := by decide
  have march := daysBeforeYear_march inBounds
  rcases date_cases inBounds with ⟨few, date⟩ | ⟨january, date⟩ | ⟨february, date⟩
  · rw [date]
    simp only [daysFromEpoch, daysBeforeMonth_march cycles.march few, epoch, epochFromMarch]
    omega
  · have before : daysBeforeMonth (cycles.march + 1) 1 = 0 := rfl
    rw [january] at start
    rw [date]
    simp only [daysFromEpoch, daysBeforeYear_succ, before, epoch, epochFromMarch]
    omega
  · have before : daysBeforeMonth (cycles.march + 1) 2 = 31 := rfl
    rw [february] at start
    rw [date]
    simp only [daysFromEpoch, daysBeforeYear_succ, before, epoch, epochFromMarch]
    omega

end Cycles

theorem dateOfDays_eq (days : Int) : dateOfDays days = (Cycles.ofDays days).date :=
  rfl

theorem isDate_dateOfDays (days : Int) :
    IsDate (dateOfDays days).1 (dateOfDays days).2.1 (dateOfDays days).2.2 :=
  Cycles.isDate_date (Cycles.inBounds_ofDays days)

/-- The date that is found for a count of days has that count. -/
theorem daysFromEpoch_dateOfDays (days : Int) :
    daysFromEpoch (dateOfDays days).1 (dateOfDays days).2.1 (dateOfDays days).2.2 = days := by
  rw [dateOfDays_eq, Cycles.daysFromEpoch_date (Cycles.inBounds_ofDays days), Cycles.total_ofDays]
  omega

end Calendar

end SeriesCursor
