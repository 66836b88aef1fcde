import RecordQuery.Scalar.Basic

/-!
# Dates and instants as scalars

A date is written `YYYY-MM-DD`, and an instant as a date and a time of day in UTC with its offset
`+00:00`. Years outside 0 to 9999 carry a sign. The calendar is the Gregorian one, extended in both
directions.
-/

namespace RecordQuery

/-- A day of the calendar. -/
structure Date where
  year : Int
  month : Nat
  day : Nat
deriving DecidableEq, Repr

/-- An instant: seconds since the beginning of 1970 in UTC, and nanoseconds. Nanoseconds from
`10 ^ 9` on belong to a leap second. -/
structure Instant where
  seconds : Int
  nanoseconds : Nat
deriving DecidableEq, Repr

/-- A natural number in decimal, filled up with zeros on the left. -/
def padded (width n : Nat) : String :=
  let digits := Nat.toDigits 10 n
  String.ofList (List.replicate (width - digits.length) '0' ++ digits)

namespace Date

/-- The text of a year: four digits at least, with a sign outside 0 to 9999. -/
def yearText (year : Int) : String :=
  if year < 0 then "-" ++ padded 4 year.natAbs
  else if year ≤ 9999 then padded 4 year.toNat
  else "+" ++ padded 4 year.toNat

def text (d : Date) : String :=
  yearText d.year ++ "-" ++ padded 2 d.month ++ "-" ++ padded 2 d.day

/-- The date a number of days after the first of January 1970. Eras of 400 years have the same
number of days; inside one, years are counted from March, so that a leap day ends its year. -/
def ofDays (days : Int) : Date :=
  -- Day zero becomes the first of March of the year zero.
  let shifted := days + 719468
  let era := shifted / 146097
  let dayOfEra := (shifted % 146097).toNat
  let yearOfEra := (dayOfEra - dayOfEra / 1460 + dayOfEra / 36524 - dayOfEra / 146096) / 365
  -- Five months from March on have 153 days together.
  let dayOfYear := dayOfEra - (365 * yearOfEra + yearOfEra / 4 - yearOfEra / 100)
  let monthFromMarch := (5 * dayOfYear + 2) / 153
  let day := dayOfYear - (153 * monthFromMarch + 2) / 5 + 1
  let month := if monthFromMarch < 10 then monthFromMarch + 3 else monthFromMarch - 9
  ⟨era * 400 + yearOfEra + (if month ≤ 2 then 1 else 0), month, day⟩

end Date

namespace Instant

/-- The fraction of a second, in the fewest of 0, 3, 6 or 9 digits that are exact. -/
def fractionText (nanoseconds : Nat) : String :=
  if nanoseconds == 0 then ""
  else if nanoseconds % 1000000 == 0 then "." ++ padded 3 (nanoseconds / 1000000)
  else if nanoseconds % 1000 == 0 then "." ++ padded 6 (nanoseconds / 1000)
  else "." ++ padded 9 nanoseconds

def text (t : Instant) : String :=
  let secondOfDay := (t.seconds % 86400).toNat
  let leap := t.nanoseconds / 1000000000
  (Date.ofDays (t.seconds / 86400)).text ++ "T" ++ padded 2 (secondOfDay / 3600) ++ ":"
    ++ padded 2 (secondOfDay / 60 % 60) ++ ":" ++ padded 2 (secondOfDay % 60 + leap)
    ++ fractionText (t.nanoseconds % 1000000000) ++ "+00:00"

end Instant

namespace Scalar

def ofDate (d : Date) : Scalar := .text d.text

def ofInstant (t : Instant) : Scalar := .text t.text

end Scalar

end RecordQuery
