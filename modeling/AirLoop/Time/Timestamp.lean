import AirLoop.Numeric.Binary64
import AirLoop.Numeric.Shortest

/-!
# Points in time

Seconds and nanoseconds since 1970 in UTC, on the proleptic Gregorian calendar, and their ISO 8601
text.
-/

namespace AirLoop

/-- A day of the calendar. -/
structure CalendarDay where
  year : Int
  month : Nat
  day : Nat
  deriving DecidableEq

namespace CalendarDay

/-- The day `n` days after 1970-01-01. Days are counted from the first of March of the year zero,
in cycles of 400 years; a year that starts in March has its leap day at the end. -/
def ofEpochDays (n : Int) : CalendarDay :=
  let z := n + 719468
  let era := z.fdiv 146097
  let dayOfEra := (z.fmod 146097).toNat
  let yearOfEra := (dayOfEra - dayOfEra / 1460 + dayOfEra / 36524 - dayOfEra / 146096) / 365
  let dayOfYear := dayOfEra - (365 * yearOfEra + yearOfEra / 4 - yearOfEra / 100)
  let shifted := (5 * dayOfYear + 2) / 153
  let month := if shifted < 10 then shifted + 3 else shifted - 9
  { year := (yearOfEra : Int) + era * 400 + (if month ≤ 2 then 1 else 0)
    month
    day := dayOfYear - (153 * shifted + 2) / 5 + 1 }

end CalendarDay

/-- A point in time. Nanoseconds from `10 ^ 9` on stand for a leap second, which only the last
second of a minute can have. -/
structure Timestamp where
  seconds : Int
  nanos : Nat
  deriving DecidableEq, Inhabited

namespace Timestamp

/-- Seconds in a day. -/
def secondsPerDay : Nat := 86400

/-- Nanoseconds in a second. -/
def nanosPerSecond : Nat := 1000000000

/-- Days since 1970-01-01. -/
def epochDay (t : Timestamp) : Int := t.seconds.fdiv secondsPerDay

/-- Seconds since midnight. -/
def secondOfDay (t : Timestamp) : Nat := (t.seconds.fmod secondsPerDay).toNat

/-- First and last year of the calendar. -/
def firstYear : Int := -262143
def lastYear : Int := 262142

/-- The point in time with these parts, if the calendar has it. -/
def ofUnix? (seconds : Int) (nanos : Nat) : Option Timestamp :=
  let t : Timestamp := ⟨seconds, nanos⟩
  let year := (CalendarDay.ofEpochDays t.epochDay).year
  if firstYear ≤ year ∧ year ≤ lastYear ∧ nanos < 2 * nanosPerSecond ∧
      (nanos < nanosPerSecond ∨ t.secondOfDay % 60 = 59) then some t
  else none

/-! ## Differences -/

/-- Nanoseconds from `start` to `finish`. A leap second lies between two times of day if the
earlier one is within it. -/
def nanosSince (finish start : Timestamp) : Int :=
  let leap : Int :=
    if start.secondOfDay < finish.secondOfDay then
      if nanosPerSecond ≤ start.nanos then 1 else 0
    else if finish.secondOfDay < start.secondOfDay then
      if nanosPerSecond ≤ finish.nanos then -1 else 0
    else 0
  (finish.seconds - start.seconds + leap) * nanosPerSecond + ((finish.nanos : Int) - start.nanos)

/-- Whole milliseconds from `start` to `finish`, cut toward zero. -/
def millisSince (finish start : Timestamp) : Int :=
  (finish.nanosSince start).tdiv 1000000

/-- Seconds from `start` to `finish` in double precision, by whole milliseconds. -/
def secondsSince (finish start : Timestamp) : UInt64 :=
  Binary64.quotient (finish.millisSince start) 1000

/-! ## Text -/

/-- The digits of `n`, with zeros in front up to `width` of them. -/
def padded (width n : Nat) : String :=
  let ds := decimalDigits n
  String.ofList (List.replicate (width - ds.length) '0' ++ ds)

/-- A year: four digits, or a sign and at least four digits outside the years 0 to 9999. -/
def yearText (y : Int) : String :=
  if 0 ≤ y ∧ y ≤ 9999 then padded 4 y.toNat
  else (if y < 0 then "-" else "+") ++ padded 4 y.natAbs

/-- Fraction of a second with as many groups of three digits as it needs. -/
def fractionText (nanos : Nat) : String :=
  if nanos = 0 then ""
  else if nanos % 1000000 = 0 then "." ++ padded 3 (nanos / 1000000)
  else if nanos % 1000 = 0 then "." ++ padded 6 (nanos / 1000)
  else "." ++ padded 9 nanos

/-- ISO 8601 text of a point in time; a leap second is the second 60. -/
def render (t : Timestamp) : String :=
  let date := CalendarDay.ofEpochDays t.epochDay
  let s := t.secondOfDay
  let leap := t.nanos / nanosPerSecond
  yearText date.year ++ "-" ++ padded 2 date.month ++ "-" ++ padded 2 date.day ++ "T" ++
    padded 2 (s / 3600) ++ ":" ++ padded 2 (s / 60 % 60) ++ ":" ++ padded 2 (s % 60 + leap) ++
    fractionText (t.nanos % nanosPerSecond) ++ "Z"

end Timestamp

end AirLoop
