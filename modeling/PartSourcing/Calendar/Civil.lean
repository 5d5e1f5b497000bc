/-!
# Civil dates

Days since 1 January 1970 and the proleptic Gregorian date they fall on. A year is taken to
begin in March, so that the leap day is its last, and the calendar then repeats every 400
years, that is every 146097 days.
-/

namespace PartSourcing.Calendar

/-- A year, a month counted from 1 and a day of the month counted from 1. -/
structure Civil where
  year : Int
  month : Nat
  day : Nat
  deriving DecidableEq, Repr

namespace Civil

/-- Whether the year has a 29 February. -/
def isLeap (year : Int) : Bool :=
  year % 4 == 0 && (year % 100 != 0 || year % 400 == 0)

/-- The number of days of a month. -/
def daysInMonth (year : Int) : (month : Nat) → Nat
  | 2 => if isLeap year then 29 else 28
  | 4 | 6 | 9 | 11 => 30
  | _ => 31

/-- The years that the calendar reaches, on either side of year zero. -/
def firstYear : Int := -262143

/-- The last year that the calendar reaches. -/
def lastYear : Int := 262142

/-- The date with the given year, month and day, if the calendar has it. -/
def of? (year : Int) (month day : Nat) : Option Civil :=
  if firstYear ≤ year && year ≤ lastYear && 1 ≤ month && month ≤ 12 && 1 ≤ day &&
      day ≤ daysInMonth year month then
    some ⟨year, month, day⟩
  else none

/-- The number of days from 1 January 1970 to the date. -/
def toDays (d : Civil) : Int :=
  let year := if d.month ≤ 2 then d.year - 1 else d.year
  let era := year.fdiv 400
  let yearOfEra := year - era * 400
  let shifted : Int := (d.month + 9) % 12
  let dayOfYear := (153 * shifted + 2) / 5 + d.day - 1
  let dayOfEra := yearOfEra * 365 + yearOfEra / 4 - yearOfEra / 100 + dayOfYear
  era * 146097 + dayOfEra - 719468

/-- The date that is the given number of days after 1 January 1970. -/
def ofDays (days : Int) : Civil :=
  let z := days + 719468
  let era := z.fdiv 146097
  let dayOfEra := z - era * 146097
  let yearOfEra := (dayOfEra - dayOfEra / 1460 + dayOfEra / 36524 - dayOfEra / 146096) / 365
  let dayOfYear := dayOfEra - (365 * yearOfEra + yearOfEra / 4 - yearOfEra / 100)
  let shifted := (5 * dayOfYear + 2) / 153
  let day := dayOfYear - (153 * shifted + 2) / 5 + 1
  let month := if shifted < 10 then shifted + 3 else shifted - 9
  let year := yearOfEra + era * 400
  ⟨if month ≤ 2 then year + 1 else year, month.toNat, day.toNat⟩

end Civil

end PartSourcing.Calendar
