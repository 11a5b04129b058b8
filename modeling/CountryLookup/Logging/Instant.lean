import CountryLookup.Text.Digits

/-!
# Instants

Log lines carry the time and rotating log files the date, both in universal time. An instant counts
microseconds since 1970; its date follows from the number of days by the rules of the Gregorian
calendar, which repeats every 400 years.

## Main results

* `month_mem`, `day_pos` — months count from one to twelve, and days from one.
-/

namespace CountryLookup.Logging

open Text

/-- A point in time, in microseconds since the start of 1970. -/
structure Instant where
  micros : Nat
  deriving Repr, DecidableEq

/-- A day of the calendar. -/
structure Day where
  year : Nat
  month : Nat
  day : Nat
  deriving Repr, DecidableEq

namespace Instant

/-- Seconds since the start of 1970. -/
def seconds (t : Instant) : Nat := t.micros / 1000000

/-- The day with a number, counted from the start of March of the year zero. Years start in March,
so that a leap day is the last of its year, and months of five go by 153 days. -/
def dayOfCount (count : Nat) : Day :=
  let era := count / 146097
  let inEra := count % 146097
  let yearInEra := (inEra - inEra / 1460 + inEra / 36524 - inEra / 146096) / 365
  let inYear := inEra - (365 * yearInEra + yearInEra / 4 - yearInEra / 100)
  let fromMarch := (5 * inYear + 2) / 153
  let month := if fromMarch < 10 then fromMarch + 3 else fromMarch - 9
  { year := yearInEra + era * 400 + if month ≤ 2 then 1 else 0
    month
    day := inYear - (153 * fromMarch + 2) / 5 + 1 }

/-- The day of an instant. -/
def day (t : Instant) : Day := dayOfCount (t.seconds / 86400 + 719468)

/-- The date, with year, month and day between dashes. -/
def date (t : Instant) : String :=
  padZero 4 (decimal t.day.year) ++ "-" ++ padZero 2 (decimal t.day.month) ++ "-"
    ++ padZero 2 (decimal t.day.day)

/-- Date and time to the microsecond. -/
def stamp (t : Instant) : String :=
  let s := t.seconds % 86400
  t.date ++ "T" ++ padZero 2 (decimal (s / 3600)) ++ ":" ++ padZero 2 (decimal (s / 60 % 60)) ++ ":"
    ++ padZero 2 (decimal (s % 60)) ++ "." ++ padZero 6 (decimal (t.micros % 1000000)) ++ "Z"

theorem day_pos (count : Nat) : 1 ≤ (dayOfCount count).day := by
  simp [dayOfCount]

/-- Months count from one to twelve. -/
theorem month_mem (count : Nat) :
    1 ≤ (dayOfCount count).month ∧ (dayOfCount count).month ≤ 12 := by
  simp only [dayOfCount]
  split <;> omega

example : ([0, 951782400000000, 951868800000000, 1767225599999999].map fun n =>
    (Instant.mk n).stamp) =
    ["1970-01-01T00:00:00.000000Z", "2000-02-29T00:00:00.000000Z", "2000-03-01T00:00:00.000000Z",
      "2025-12-31T23:59:59.999999Z"] := by decide +kernel

end Instant

end CountryLookup.Logging
