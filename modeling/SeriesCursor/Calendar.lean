/-!
Dates of the Gregorian calendar, extended to all years, with a year zero; and instants counted in
milliseconds from the start of 1970, without leap seconds. An instant is found from its count by taking
off whole cycles of 400, 100, 4 and 1 years that start on the first of March; the count of an instant is
found from its fields by adding up years and months that start on the first of January.
-/

namespace SeriesCursor

structure Instant where
  year : Int
  month : Nat
  day : Nat
  hour : Nat
  minute : Nat
  second : Nat
  millisecond : Nat
  deriving DecidableEq, Repr

namespace Calendar

def isLeap (year : Int) : Bool :=
  year % 4 == 0 && (year % 100 != 0 || year % 400 == 0)

def daysInMonth (year : Int) : (month : Nat) → Nat
  | 2 => if isLeap year then 29 else 28
  | 4 | 6 | 9 | 11 => 30
  | _ => 31

def daysBeforeYear (year : Int) : Int :=
  365 * year + (year + 3) / 4 - (year + 99) / 100 + (year + 399) / 400

/-- Days from the start of a year to the start of a month, January being month one. -/
def daysBeforeMonth (year : Int) : (month : Nat) → Nat
  | 0 | 1 => 0
  | month + 1 => daysBeforeMonth year month + daysInMonth year month

def daysFromEpoch (year : Int) (month day : Nat) : Int :=
  daysBeforeYear year + daysBeforeMonth year month + day - 1 - daysBeforeYear 1970

/-- Days from the first of March of year zero to the first of January 1970. -/
def epochFromMarch : Int := 719468

def dateOfDays (days : Int) : Int × Nat × Nat :=
  let sinceMarch := days + epochFromMarch
  let era := sinceMarch / 146097
  let dayOfEra := (sinceMarch % 146097).toNat
  let century := min (dayOfEra / 36524) 3
  let dayOfCentury := dayOfEra - 36524 * century
  let fours := dayOfCentury / 1461
  let dayOfFour := dayOfCentury - 1461 * fours
  let yearOfFour := min (dayOfFour / 365) 3
  let dayOfYear := dayOfFour - 365 * yearOfFour
  let monthFromMarch := (5 * dayOfYear + 2) / 153
  let day := dayOfYear - (153 * monthFromMarch + 2) / 5 + 1
  let month := if monthFromMarch < 10 then monthFromMarch + 3 else monthFromMarch - 9
  let year := 400 * era + 100 * century + 4 * fours + yearOfFour
  (if month ≤ 2 then year + 1 else year, month, day)

end Calendar

namespace Instant

def millisPerDay : Int := 86400000

def IsValid (instant : Instant) : Prop :=
  1 ≤ instant.month ∧ instant.month ≤ 12 ∧
    1 ≤ instant.day ∧ instant.day ≤ Calendar.daysInMonth instant.year instant.month ∧
    instant.hour < 24 ∧ instant.minute < 60 ∧ instant.second < 60 ∧ instant.millisecond < 1000

instance (instant : Instant) : Decidable instant.IsValid := by
  unfold IsValid
  infer_instance

def toMillis (instant : Instant) : Int :=
  Calendar.daysFromEpoch instant.year instant.month instant.day * millisPerDay +
    instant.hour * 3600000 + instant.minute * 60000 + instant.second * 1000 + instant.millisecond

def earliest : Instant :=
  ⟨-262143, 1, 1, 0, 0, 0, 0⟩

def latest : Instant :=
  ⟨262142, 12, 31, 23, 59, 59, 999⟩

def ofMillis (millis : Int) : Instant :=
  let date := Calendar.dateOfDays (millis / millisPerDay)
  let ofDay := (millis % millisPerDay).toNat
  { year := date.1
    month := date.2.1
    day := date.2.2
    hour := ofDay / 3600000
    minute := ofDay / 60000 % 60
    second := ofDay / 1000 % 60
    millisecond := ofDay % 1000 }

def ofMillis? (millis : Int) : Option Instant :=
  if earliest.toMillis ≤ millis ∧ millis ≤ latest.toMillis then some (ofMillis millis) else none

end Instant

end SeriesCursor
