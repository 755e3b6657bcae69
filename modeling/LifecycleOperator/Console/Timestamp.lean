/-!
# Timestamps

The text of a moment: date and time of day in universal time, with as many
decimals of the second as are needed, in groups of three.
-/

namespace LifecycleOperator

/-- A day of the calendar. -/
structure Date where
  year : Nat
  /-- The month, from 1. -/
  month : Nat
  /-- The day of the month, from 1. -/
  day : Nat
  deriving DecidableEq, Repr, Inhabited

namespace Date

/-- Days in an era of 400 years. -/
def daysPerEra : Nat := 146097

/--
The day that lies a number of days after the first of January 1970.  Years are
counted from the first of March, so that a leap day is the last day of its year,
and in eras of 400 years, after which the calendar repeats.
-/
def ofDays (days : Nat) : Date :=
  let shifted := days + 719468
  let era := shifted / daysPerEra
  let dayOfEra := shifted % daysPerEra
  let yearOfEra :=
    (dayOfEra - dayOfEra / 1460 + dayOfEra / 36524 - dayOfEra / 146096) / 365
  let dayOfYear := dayOfEra - (365 * yearOfEra + yearOfEra / 4 - yearOfEra / 100)
  let monthFromMarch := (5 * dayOfYear + 2) / 153
  let month := if monthFromMarch < 10 then monthFromMarch + 3 else monthFromMarch - 9
  { year := yearOfEra + 400 * era + (if month ≤ 2 then 1 else 0)
    month
    day := dayOfYear - (153 * monthFromMarch + 2) / 5 + 1 }

end Date

/-- A moment, in nanoseconds since the beginning of 1970. -/
structure Timestamp where
  /-- The nanoseconds. -/
  nanoseconds : Nat
  deriving DecidableEq, Repr, Inhabited

namespace Timestamp

/-- A number with zeros before it, up to a width. -/
def padded (width value : Nat) : String :=
  let digits := toString value
  String.ofList (List.replicate (width - digits.length) '0') ++ digits

/-- The decimals of a second: none, three, six or nine. -/
def decimals (nanoseconds : Nat) : String :=
  if nanoseconds = 0 then ""
  else if nanoseconds % 1000000 = 0 then "." ++ padded 3 (nanoseconds / 1000000)
  else if nanoseconds % 1000 = 0 then "." ++ padded 6 (nanoseconds / 1000)
  else "." ++ padded 9 nanoseconds

/-- The nanoseconds since the last full second. -/
def fraction (timestamp : Timestamp) : Nat := timestamp.nanoseconds % 1000000000

/-- The text of a moment, up to the second. -/
def secondText (timestamp : Timestamp) : String :=
  let seconds := timestamp.nanoseconds / 1000000000
  let date := Date.ofDays (seconds / 86400)
  let time := seconds % 86400
  padded 4 date.year ++ "-" ++ padded 2 date.month ++ "-" ++ padded 2 date.day ++ "T" ++
    padded 2 (time / 3600) ++ ":" ++ padded 2 (time / 60 % 60) ++ ":" ++ padded 2 (time % 60)

def text (timestamp : Timestamp) : String :=
  timestamp.secondText ++ decimals timestamp.fraction ++ "Z"

/-- The text of a moment, with its microseconds. -/
def microsecondText (timestamp : Timestamp) : String :=
  timestamp.secondText ++ "." ++ padded 6 (timestamp.fraction / 1000) ++ "Z"

example : (Timestamp.mk 1704164645600000000).text = "2024-01-02T03:04:05.600Z" := by
  decide +kernel

end Timestamp

end LifecycleOperator
