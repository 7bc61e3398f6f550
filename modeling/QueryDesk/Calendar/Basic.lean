/-
**Dates, times of day and points in time.**

* `Date`, `Time`, `Datetime` — a civil date of the Gregorian calendar, a time of day with an
  optional offset from universal time, and the two together.
* `Date.dayNumber`, `Date.ofDayNumber` — the days since the first of January 1970 and back.
* `Datetime.instant` — microseconds since 1970 in universal time for a datetime with an
  offset, in local time otherwise.
-/

namespace QueryDesk

/-- A civil date of the Gregorian calendar; years, months and days are counted from one. -/
structure Date where
  year : Nat
  month : Nat
  day : Nat
deriving DecidableEq, Repr, Inhabited

namespace Date

/-- Whether a year has a 29th of February. -/
def isLeapYear (year : Nat) : Bool :=
  year % 4 == 0 && (year % 100 != 0 || year % 400 == 0)

/-- The number of days of a month. -/
def daysInMonth (year month : Nat) : Nat :=
  if month = 2 then (if isLeapYear year then 29 else 28)
  else if month = 4 ∨ month = 6 ∨ month = 9 ∨ month = 11 then 30
  else 31

/-- Whether the numbers name a day of the years 1 to 9999. -/
def isValid (date : Date) : Bool :=
  decide (1 ≤ date.year) && decide (date.year ≤ 9999) && decide (1 ≤ date.month) &&
    decide (date.month ≤ 12) && decide (1 ≤ date.day) &&
    decide (date.day ≤ daysInMonth date.year date.month)

/-- The days of the year before the first of a month. -/
def daysBeforeMonth (year month : Nat) : Nat :=
  (List.range (month - 1)).foldl (fun days before => days + daysInMonth year (before + 1)) 0

/-- The days before the first of January of a year, counted from the year 1. -/
def daysBeforeYear (year : Nat) : Nat :=
  let before := year - 1
  before * 365 + before / 4 - before / 100 + before / 400

/-- The days from the first of January 1970 to the date. -/
def dayNumber (date : Date) : Int :=
  ((daysBeforeYear date.year + daysBeforeMonth date.year date.month + date.day : Nat) : Int)
    - 719163

/-- The day of the week, Monday being 0. -/
def weekday (date : Date) : Nat := ((date.dayNumber + 3) % 7).toNat

/-- The month that holds the day with the given number in its year, from the given month on. -/
def monthOfDay (year : Nat) : Nat → Nat → Nat → Date
  | 0, month, rest => ⟨year, month, rest + 1⟩
  | fuel + 1, month, rest =>
    let size := daysInMonth year month
    if rest < size then ⟨year, month, rest + 1⟩ else monthOfDay year fuel (month + 1) (rest - size)

/-- The date a number of days after the first of January 1970, for dates from the year 1 on. -/
def ofDayNumber (number : Int) : Date :=
  let days := (number + 719162).toNat
  let cycles := days / 146097
  let inCycle := days % 146097
  let centuries := min 3 (inCycle / 36524)
  let inCentury := inCycle - centuries * 36524
  let leaps := inCentury / 1461
  let inLeap := inCentury % 1461
  let years := min 3 (inLeap / 365)
  let inYear := inLeap - years * 365
  monthOfDay (400 * cycles + 100 * centuries + 4 * leaps + years + 1) 11 1 inYear

end Date

/-- A time of day to the microsecond, with its distance from universal time in
microseconds if that is known. -/
structure Time where
  hour : Nat
  minute : Nat
  second : Nat
  microsecond : Nat
  offset : Option Int
deriving DecidableEq, Repr, Inhabited

namespace Time

/-- Midnight without an offset. -/
def midnight : Time := ⟨0, 0, 0, 0, none⟩

/-- Whether the numbers name a time of day. -/
def isValid (time : Time) : Bool :=
  decide (time.hour < 24) && decide (time.minute < 60) && decide (time.second < 60) &&
    decide (time.microsecond < 1000000)

/-- Microseconds since midnight. -/
def sinceMidnight (time : Time) : Nat :=
  ((time.hour * 60 + time.minute) * 60 + time.second) * 1000000 + time.microsecond

/-- The time of day a number of microseconds after midnight. -/
def ofMicroseconds (count : Nat) (offset : Option Int) : Time :=
  let seconds := count / 1000000
  ⟨seconds / 3600, seconds / 60 % 60, seconds % 60, count % 1000000, offset⟩

/-- Microseconds since midnight in universal time, or in local time without an offset. -/
def instant (time : Time) : Int := time.sinceMidnight - time.offset.getD 0

end Time

/-- A date and a time of day. -/
structure Datetime where
  date : Date
  time : Time
deriving DecidableEq, Repr, Inhabited

namespace Datetime

/-- Microseconds of one day. -/
def microsecondsPerDay : Nat := 86400000000

/-- Microseconds since 1970 in local time. -/
def localInstant (moment : Datetime) : Int :=
  moment.date.dayNumber * microsecondsPerDay + moment.time.sinceMidnight

/-- Microseconds since 1970 in universal time, or in local time without an offset. -/
def instant (moment : Datetime) : Int := moment.localInstant - moment.time.offset.getD 0

/-- The local datetime a number of microseconds after 1970. -/
def ofLocalInstant (instant : Int) (offset : Option Int) : Datetime :=
  ⟨Date.ofDayNumber (instant / microsecondsPerDay),
    Time.ofMicroseconds (instant % microsecondsPerDay).toNat offset⟩

/-- Midnight of a day. -/
def ofDate (date : Date) : Datetime := ⟨date, Time.midnight⟩

end Datetime

end QueryDesk
