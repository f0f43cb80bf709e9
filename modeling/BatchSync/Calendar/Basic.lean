/-!
# Dates, times of day and instants

The proleptic Gregorian calendar on the days before and after 1 January 1970, times of day with leap
seconds, and instants in UTC. Dates run from the start of the year -262143 to the end of 262142.
-/

namespace BatchSync.Calendar

/-! ## Dates -/

/-- A date of the Gregorian calendar, continued to all years. -/
structure Date where
  year : Int
  month : Nat
  day : Nat
  deriving DecidableEq

/-- Whether a year has a 29 February. -/
def isLeapYear (year : Int) : Bool :=
  year % 4 == 0 && (year % 100 != 0 || year % 400 == 0)

/-- Number of days in a month. -/
def daysInMonth (year : Int) (month : Nat) : Nat :=
  if month = 2 then if isLeapYear year then 29 else 28
  else if month = 4 ∨ month = 6 ∨ month = 9 ∨ month = 11 then 30 else 31

/-- The first year with dates. -/
def firstYear : Int := -262143

/-- The last year with dates. -/
def lastYear : Int := 262142

namespace Date

/-- The date of a year, a month and a day, if there is such a date. -/
def ofYmd? (year : Int) (month day : Nat) : Option Date :=
  if firstYear ≤ year ∧ year ≤ lastYear ∧ 1 ≤ month ∧ month ≤ 12 ∧ 1 ≤ day ∧
      day ≤ daysInMonth year month then
    some ⟨year, month, day⟩
  else none

/-- Days of the year that come before a date, when the year begins on 1 March. -/
def dayOfMarchYear (d : Date) : Int :=
  let monthFromMarch : Int := if 2 < d.month then d.month - 3 else d.month + 9
  (153 * monthFromMarch + 2) / 5 + d.day - 1

/-- Days from 1 January 1970 to a date. The days are counted in eras of 400 years, whose years begin
on 1 March. -/
def epochDay (d : Date) : Int :=
  let year := if 2 < d.month then d.year else d.year - 1
  let era := year / 400
  let yearOfEra := year % 400
  era * 146097 + (yearOfEra * 365 + yearOfEra / 4 - yearOfEra / 100 + d.dayOfMarchYear) - 719468

/-- The date that many days after 1 January 1970. -/
def ofEpochDay (days : Int) : Date :=
  let shifted := days + 719468
  let era := shifted / 146097
  let dayOfEra := shifted % 146097
  let yearOfEra := (dayOfEra - dayOfEra / 1460 + dayOfEra / 36524 - dayOfEra / 146096) / 365
  let dayOfYear := dayOfEra - (365 * yearOfEra + yearOfEra / 4 - yearOfEra / 100)
  let monthFromMarch := (5 * dayOfYear + 2) / 153
  let day := dayOfYear - (153 * monthFromMarch + 2) / 5 + 1
  let month := if monthFromMarch < 10 then monthFromMarch + 3 else monthFromMarch - 9
  let year := yearOfEra + era * 400
  ⟨if month ≤ 2 then year + 1 else year, month.toNat, day.toNat⟩

end Date

/-! ## Times of day -/

/-- A time of day. In a leap second the nanoseconds go on past a billion. -/
structure TimeOfDay where
  seconds : Nat
  nanos : Nat
  deriving DecidableEq

/-- Seconds of a day. -/
def secondsPerDay : Nat := 86400

/-- Nanoseconds of a second. -/
def nanosPerSecond : Nat := 1000000000

namespace TimeOfDay

/-- Midnight. -/
def midnight : TimeOfDay := ⟨0, 0⟩

/-- The time of an hour, a minute and a second. The sixtieth second is the leap second of the
minute. -/
def ofHms? (hour minute second : Nat) (nanos : Nat) : Option TimeOfDay :=
  if hour < 24 ∧ minute < 60 ∧ second ≤ 60 then
    if second = 60 then some ⟨hour * 3600 + minute * 60 + 59, nanosPerSecond + nanos⟩
    else some ⟨hour * 3600 + minute * 60 + second, nanos⟩
  else none

/-- Milliseconds since midnight. -/
def millis (t : TimeOfDay) : Int := (t.seconds * 1000 + t.nanos / 1000000 : Nat)

end TimeOfDay

/-! ## Instants -/

/-- An instant in UTC: seconds since the start of 1970, rounded down, and the nanoseconds past
them, a billion and more of which stand in a leap second. -/
structure Instant where
  seconds : Int
  nanos : Nat
  deriving DecidableEq

namespace Instant

/-- The instant of a date and a time of day. -/
def ofDateAndTime (d : Date) (t : TimeOfDay) : Instant :=
  ⟨d.epochDay * secondsPerDay + t.seconds, t.nanos⟩

/-- Milliseconds since the start of 1970. -/
def millis (i : Instant) : Int := i.seconds * 1000 + (i.nanos / 1000000 : Nat)

/-- The date of an instant. -/
def date (i : Instant) : Date := Date.ofEpochDay (i.seconds / secondsPerDay)

/-- The time of day of an instant. -/
def timeOfDay (i : Instant) : TimeOfDay := ⟨(i.seconds % secondsPerDay).toNat, i.nanos⟩

/-- Whether the date of an instant lies in the years that have dates. -/
def isRepresentable (i : Instant) : Bool :=
  decide (firstYear ≤ i.date.year) && decide (i.date.year ≤ lastYear)

/-- The instant of a number of milliseconds since the start of 1970, if there is one. -/
def ofMillis? (millis : Int) : Option Instant :=
  let i : Instant := ⟨millis / 1000, (millis % 1000).toNat * 1000000⟩
  if i.isRepresentable then some i else none

end Instant

end BatchSync.Calendar
