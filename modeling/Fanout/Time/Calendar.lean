/-!
# The civil calendar

Seconds since the epoch (1970-01-01 00:00:00 UTC) as a date and time of the proleptic
Gregorian calendar, and back. Days are counted from the epoch; a year of the calendar has its
days in eras of 400 years (146097 days), which makes the conversion exact for every day,
before the epoch too.
-/

namespace Fanout.Time

/-- A date and time of day, with the day of the week (0 for Sunday) and of the year (0 for
the first of January). -/
structure CivilTime where
  year : Int
  month : Nat
  day : Nat
  hour : Nat
  minute : Nat
  second : Nat
  weekday : Nat
  yearDay : Nat
  deriving Repr, BEq

/-- Whether a year has 366 days. -/
def isLeapYear (y : Int) : Bool :=
  (y % 4 == 0 && y % 100 != 0) || y % 400 == 0

/-- The days of a month of a year. -/
def monthDays (y : Int) (m : Nat) : Nat :=
  match m with
  | 2 => if isLeapYear y then 29 else 28
  | 4 | 6 | 9 | 11 => 30
  | _ => 31

/-- The date of a day counted from the epoch: year, month and day of the month. -/
def civilOfDays (z : Int) : Int × Nat × Nat :=
  let z := z + 719468
  let era := (if z ≥ 0 then z else z - 146096) / 146097
  let doe := z - era * 146097
  let yoe := (doe - doe / 1460 + doe / 36524 - doe / 146096) / 365
  let y := yoe + era * 400
  let doy := doe - (365 * yoe + yoe / 4 - yoe / 100)
  let mp := (5 * doy + 2) / 153
  let d := doy - (153 * mp + 2) / 5 + 1
  let m := if mp < 10 then mp + 3 else mp - 9
  ((if m ≤ 2 then y + 1 else y), m.toNat, d.toNat)

/-- The day counted from the epoch of a date. -/
def daysOfCivil (y : Int) (m d : Nat) : Int :=
  let y := if m ≤ 2 then y - 1 else y
  let era := (if y ≥ 0 then y else y - 399) / 400
  let yoe := y - era * 400
  let mp : Int := if m > 2 then m - 3 else m + 9
  let doy := (153 * mp + 2) / 5 + d - 1
  let doe := yoe * 365 + yoe / 4 - yoe / 100 + doy
  era * 146097 + doe - 719468

/-- The date and time of a second counted from the epoch. -/
def civilOfSeconds (t : Int) : CivilTime :=
  let days := t / 86400 - (if t % 86400 < 0 then 1 else 0)
  let secs := (t - days * 86400).toNat
  let (year, month, day) := civilOfDays days
  let weekday := ((days + 4) % 7 + 7) % 7
  { year, month, day, hour := secs / 3600, minute := secs / 60 % 60, second := secs % 60,
    weekday := weekday.toNat, yearDay := (days - daysOfCivil year 1 1).toNat }

/-- The second counted from the epoch of a date and time. -/
def secondsOfCivil (y : Int) (m d hh mm ss : Nat) : Int :=
  daysOfCivil y m d * 86400 + hh * 3600 + mm * 60 + ss

theorem civilOfDays_zero : civilOfDays 0 = (1970, 1, 1) := by decide

/-- The week-based year and week number of ISO 8601: weeks start on Monday, and the first
week of a year is the one holding its first Thursday. -/
def isoWeek (c : CivilTime) : Int × Nat :=
  let wday := (c.weekday + 6) % 7
  let thursdayDay : Int := (c.yearDay : Int) - wday + 3
  if thursdayDay < 0 then
    let prev := c.year - 1
    let prevLen : Int := if isLeapYear prev then 366 else 365
    (prev, ((thursdayDay + prevLen) / 7 + 1).toNat)
  else
    let len : Int := if isLeapYear c.year then 366 else 365
    if thursdayDay ≥ len then (c.year + 1, 1)
    else (c.year, (thursdayDay / 7 + 1).toNat)

end Fanout.Time
