/-!
# Calendar times

The date and time of day of a count of seconds since the start of 1970, in universal time.  Years
start in March in the computation, so that the leap day comes last.
-/

namespace Worksheet.Log

/-- A date with the time of day. -/
structure Moment where
  year : Int
  month : Nat
  day : Nat
  hour : Nat
  minute : Nat
  second : Nat
  /-- Days since the last Sunday. -/
  weekday : Nat
  /-- Days since the start of the year, counted from one. -/
  yearDay : Nat
  /-- Seconds since the start of 1970. -/
  seconds : Int
  deriving DecidableEq, Repr

/-- Days before the start of a month in a year of the given kind. -/
def daysBefore (leap : Bool) (month : Nat) : Nat :=
  let days := [31, if leap then 29 else 28, 31, 30, 31, 30, 31, 31, 30, 31, 30, 31]
  (days.take (month - 1)).foldl (· + ·) 0

/-- Whether a year has a leap day. -/
def isLeap (year : Int) : Bool :=
  year % 4 == 0 && (year % 100 != 0 || year % 400 == 0)

/-- The year, month and day of a count of days since the start of 1970. -/
def dateOf (days : Int) : Int × Nat × Nat :=
  let z := days + 719468
  let era := Int.fdiv z 146097
  let dayOfEra := (z - era * 146097).toNat
  let yearOfEra := (dayOfEra - dayOfEra / 1460 + dayOfEra / 36524 - dayOfEra / 146096) / 365
  let dayOfYear := dayOfEra - (365 * yearOfEra + yearOfEra / 4 - yearOfEra / 100)
  let shifted := (5 * dayOfYear + 2) / 153
  let day := dayOfYear - (153 * shifted + 2) / 5 + 1
  let month := if shifted < 10 then shifted + 3 else shifted - 9
  let year := (yearOfEra : Int) + era * 400
  (if month ≤ 2 then year + 1 else year, month, day)

/-- The moment of a count of seconds since the start of 1970. -/
def Moment.ofSeconds (seconds : Int) : Moment :=
  let days := Int.fdiv seconds 86400
  let rest := (seconds - days * 86400).toNat
  let (year, month, day) := dateOf days
  { year, month, day, seconds
    hour := rest / 3600
    minute := rest % 3600 / 60
    second := rest % 60
    weekday := (Int.emod (days + 4) 7).toNat
    yearDay := daysBefore (isLeap year) month + day }

/-- The names of the days of the week. -/
def weekdays : List String :=
  ["Sunday", "Monday", "Tuesday", "Wednesday", "Thursday", "Friday", "Saturday"]

/-- The names of the months. -/
def months : List String :=
  ["January", "February", "March", "April", "May", "June", "July", "August", "September",
   "October", "November", "December"]

namespace Moment

/-- The name of the day of the week. -/
def weekdayName (t : Moment) : String := weekdays.getD t.weekday ""

/-- The name of the month. -/
def monthName (t : Moment) : String := months.getD (t.month - 1) ""

/-- The hour on a clock of twelve hours. -/
def clockHour (t : Moment) : Nat := if t.hour % 12 == 0 then 12 else t.hour % 12

/-- The half of the day. -/
def half (t : Moment) : String := if t.hour < 12 then "AM" else "PM"

/-- Days since the last Monday. -/
def sinceMonday (t : Moment) : Nat := (t.weekday + 6) % 7

/-- The number of the week, if weeks start on the day that was `since` days ago and days before the
first such day of the year are in week zero. -/
def week (t : Moment) (since : Nat) : Nat := (t.yearDay + 6 - since) / 7

/-- The number of days in a year. -/
def daysIn (year : Int) : Int := if isLeap year then 366 else 365

/-- Days since the Monday of the first week that has most of its days in a year; `day` counts from
zero at the start of the year and is a day of the week of `t`. -/
def daysFromFirstWeek (t : Moment) (day : Int) : Int :=
  day - Int.emod (day - t.weekday + 4) 7 + 3

/-- The year that most days of the week belong to, and the number of the week in it. -/
def weekOfYear (t : Moment) : Int × Int :=
  let day : Int := t.yearDay - 1
  let here := t.daysFromFirstWeek day
  let before := t.daysFromFirstWeek (day + daysIn (t.year - 1))
  let after := t.daysFromFirstWeek (day - daysIn t.year)
  if here < 0 then (t.year - 1, before / 7 + 1)
  else if 0 ≤ after then (t.year + 1, after / 7 + 1)
  else (t.year, here / 7 + 1)

end Moment

/-! ### Counts of seconds that have a moment -/

/-- Why a count of seconds has no moment that can be written. -/
inductive TimeFault where
  | notANumber
  /-- The count does not fit 64 bits. -/
  | tooManySeconds
  /-- The year does not fit a count of years since 1900. -/
  | tooManyYears
  /-- The year itself does not fit 32 bits. -/
  | yearTooLarge
  | yearTooSmall
  /-- The year fits 32 bits and its distance from 1900 does not. -/
  | yearOutOfRange
  /-- A value of another kind than numbers. -/
  | notSeconds (kind : String)
  /-- A pattern with a character of code zero. -/
  | nullInPattern
  deriving DecidableEq, Repr

/-- The wording of a fault. -/
def TimeFault.message : TimeFault → String
  | notANumber => "Invalid value NaN (not a number)"
  | tooManySeconds => "timestamp out of range for platform time_t"
  | tooManyYears => "[Errno 75] Value too large for defined data type"
  | yearTooLarge => "signed integer is greater than maximum"
  | yearTooSmall => "signed integer is less than minimum"
  | yearOutOfRange => "year out of range"
  | notSeconds kind => "'" ++ kind ++ "' object cannot be interpreted as an integer"
  | nullInPattern => "embedded null character"

/-- The moment of a count of seconds since the start of 1970, unless it is out of range. -/
def Moment.ofSeconds? (seconds : Int) : Except TimeFault Moment :=
  let bound : Int := Nat.pow 2 31
  let t := Moment.ofSeconds seconds
  if seconds < -Nat.pow 2 63 || Nat.pow 2 63 ≤ seconds then .error .tooManySeconds
  else if t.year - 1900 < -bound || bound ≤ t.year - 1900 then .error .tooManyYears
  else if t.year < -bound then .error .yearTooSmall
  else if bound ≤ t.year then .error .yearTooLarge
  else if t.year < -bound + 1900 then .error .yearOutOfRange
  else .ok t

end Worksheet.Log
