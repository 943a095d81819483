import LambdaQuery.Text.Numeral

/-!
# Moments in time

A moment is counted in seconds and nanoseconds from the start of 1970, in Universal Time, and
written as a calendar date and a time of day with milliseconds.

## Main definitions

* `LambdaQuery.Instant` — a moment.
* `LambdaQuery.CalendarDate.ofDays` — the date of a day in the Gregorian calendar.
* `LambdaQuery.Instant.iso` — the text `2024-01-31T12:00:00.000Z`.

## Design

The calendar is counted from the first of March of the year 0, so that the leap day is the last
day of its year, in eras of 400 years, which are all equally long.
-/

set_option autoImplicit false

namespace LambdaQuery

/-- A moment: `seconds` and `nanos` after the start of 1970.  A count of `10 ^ 9` nanoseconds or
more stands for the leap second that follows the second. -/
structure Instant where
  /-- Whole seconds from the start of 1970, negative before it. -/
  seconds : Int
  /-- Nanoseconds into the second. -/
  nanos : Nat
deriving DecidableEq

/-- A date of the Gregorian calendar, extended to all years. -/
structure CalendarDate where
  /-- The year; the year 0 precedes the year 1. -/
  year : Int
  /-- The month, from 1 to 12. -/
  month : Nat
  /-- The day of the month, from 1. -/
  day : Nat
deriving DecidableEq

namespace CalendarDate

/-- The date of the day that lies `days` days after the first of January 1970. -/
def ofDays (days : Int) : CalendarDate :=
  let fromMarch := days + 719468
  let era := fromMarch / 146097
  let dayOfEra := (fromMarch % 146097).toNat
  let yearOfEra := (dayOfEra - dayOfEra / 1460 + dayOfEra / 36524 - dayOfEra / 146096) / 365
  let dayOfYear := dayOfEra - (365 * yearOfEra + yearOfEra / 4 - yearOfEra / 100)
  let monthFromMarch := (5 * dayOfYear + 2) / 153
  let day := dayOfYear - (153 * monthFromMarch + 2) / 5 + 1
  let month := if monthFromMarch < 10 then monthFromMarch + 3 else monthFromMarch - 9
  let year := era * 400 + yearOfEra + (if month ≤ 2 then 1 else 0)
  ⟨year, month, day⟩

/-- The text of a year: four digits, and a sign outside the years 0 to 9999. -/
def yearText : Int → List Char
  | .ofNat y => if y ≤ 9999 then Text.padded 4 y else '+' :: Text.padded 4 y
  | .negSucc y => '-' :: Text.padded 4 (y + 1)

/-- The text `2024-01-31` of a date. -/
def text (d : CalendarDate) : List Char :=
  yearText d.year ++ '-' :: Text.padded 2 d.month ++ '-' :: Text.padded 2 d.day

end CalendarDate

namespace Instant

/-- The text `2024-01-31T12:00:00.000Z` of a moment; what is below a millisecond is cut off. -/
def iso (t : Instant) : List Char :=
  let date := CalendarDate.ofDays (t.seconds / 86400)
  let secondOfDay := (t.seconds % 86400).toNat
  let leap := t.nanos / Nat.pow 10 9
  let milliseconds := t.nanos % Nat.pow 10 9 / Nat.pow 10 6
  date.text ++ 'T' :: Text.padded 2 (secondOfDay / 3600)
    ++ ':' :: Text.padded 2 (secondOfDay / 60 % 60)
    ++ ':' :: Text.padded 2 (secondOfDay % 60 + leap) ++ '.' :: Text.padded 3 milliseconds ++ ['Z']

end Instant

end LambdaQuery
