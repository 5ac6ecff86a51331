/-!
# Dates of the proleptic Gregorian calendar

A date is a year, a month and a day. Years are counted astronomically (the year before 1
is 0) and run from `-262143` to `262142`. Every fourth year is a leap year, except
centuries that are not divisible by 400.

- `Date`, `Date.ofYmd?`: a date, and the date of three numbers when they name one.
- `Date.toDays`, `Date.ofDays`: the count of days since 1970-01-01 and back.
- `Date.weekday`: the day of the week, counted from Sunday.
-/

namespace Autotext.Calendar

/-- The first year of the calendar's range. -/
def minYear : Int := -262143

/-- The last year of the calendar's range. -/
def maxYear : Int := 262142

/-- Whether a year has a 29th of February. -/
def isLeapYear (y : Int) : Bool :=
  y % 4 == 0 && (y % 100 != 0 || y % 400 == 0)

/-- The number of days of a month of a year; zero for a number that names no month. -/
def daysInMonth (y : Int) (m : Nat) : Nat :=
  match m with
  | 1 | 3 | 5 | 7 | 8 | 10 | 12 => 31
  | 4 | 6 | 9 | 11 => 30
  | 2 => if isLeapYear y then 29 else 28
  | _ => 0

/-- A calendar date. -/
structure Date where
  year : Int
  month : Nat
  day : Nat
  deriving Repr, DecidableEq, Inhabited

/-- Whether three numbers name a date of the calendar's range. -/
def isValidYmd (y : Int) (m d : Nat) : Bool :=
  minYear ≤ y && y ≤ maxYear && 1 ≤ d && d ≤ daysInMonth y m

/-- The date of a year, month and day, when they name one. -/
def Date.ofYmd? (y : Int) (m d : Nat) : Option Date :=
  if isValidYmd y m d then some ⟨y, m, d⟩ else none

/-- The number of days from 1970-01-01 to a date. The year is shifted to start in March,
so that the leap day ends it. -/
def Date.toDays (date : Date) : Int :=
  let y : Int := if date.month ≤ 2 then date.year - 1 else date.year
  let era := y / 400
  let yoe := y - era * 400
  let mp : Int := if date.month > 2 then (date.month : Int) - 3 else (date.month : Int) + 9
  let doy := (153 * mp + 2) / 5 + (date.day : Int) - 1
  let doe := yoe * 365 + yoe / 4 - yoe / 100 + doy
  era * 146097 + doe - 719468

/-- The date a number of days after 1970-01-01. -/
def Date.ofDays (n : Int) : Date :=
  let z := n + 719468
  let era := z / 146097
  let doe := z - era * 146097
  let yoe := (doe - doe / 1460 + doe / 36524 - doe / 146096) / 365
  let doy := doe - (365 * yoe + yoe / 4 - yoe / 100)
  let mp := (5 * doy + 2) / 153
  let d := doy - (153 * mp + 2) / 5 + 1
  let m := if mp < 10 then mp + 3 else mp - 9
  let y := yoe + era * 400
  ⟨if m ≤ 2 then y + 1 else y, m.toNat, d.toNat⟩

/-- Whether a date lies in the calendar's range. -/
def Date.inRange (date : Date) : Bool := minYear ≤ date.year && date.year ≤ maxYear

/-- The day of the week, 0 for Sunday to 6 for Saturday; 1970-01-01 was a Thursday. -/
def Date.weekday (date : Date) : Nat := ((date.toDays + 4) % 7).toNat

end Autotext.Calendar
