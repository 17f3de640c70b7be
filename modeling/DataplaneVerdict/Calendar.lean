/-!
# `Calendar` — days

Days are counted from the first of January 1970.

## Contents
- `Calendar.dayNumber` and `Calendar.civil`, from dates to numbers and back.
- `Calendar.weekday`.
-/

namespace DataplaneVerdict

namespace Calendar

/-- The day before the first of March of a year, counted from the first of January 1970. -/
def beforeMarch (year : Int) : Int := 365 * year + year / 4 - year / 100 + year / 400 - 719469

/-- The number of a day, counted from the first of January 1970. The month counts from zero and may lie outside its
year. -/
def dayNumber (year month day : Int) : Int :=
  let year := year + month / 12
  let month := month % 12
  -- years are taken to start in March, so that a leap day is the last day of one
  let (year, month) := if month < 2 then (year - 1, month + 10) else (year, month - 2)
  beforeMarch year + (153 * month + 2) / 5 + day

/-- A day as year, month from one, and day of the month. -/
def civil (days : Int) : Int × Int × Int :=
  let z := days + 719468
  let era := z / 146097
  let dayOfEra := z % 146097
  let yearOfEra := (dayOfEra - dayOfEra / 1460 + dayOfEra / 36524 - dayOfEra / 146096) / 365
  let dayOfYear := dayOfEra - (365 * yearOfEra + yearOfEra / 4 - yearOfEra / 100)
  let m := (5 * dayOfYear + 2) / 153
  let day := dayOfYear - (153 * m + 2) / 5 + 1
  let month := if m < 10 then m + 3 else m - 9
  (yearOfEra + era * 400 + (if month ≤ 2 then 1 else 0), month, day)

/-- The day of the week, Sunday being zero. -/
def weekday (days : Int) : Nat := ((days + 4) % 7).toNat

end Calendar

end DataplaneVerdict
