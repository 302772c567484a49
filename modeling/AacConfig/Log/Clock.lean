/-!
# Times of log records

A time is shown in universal time, to the second, with the date in front.
-/

namespace AacConfig.Log

/-- A date of the Gregorian calendar. -/
structure Date where
  year : Nat
  month : Nat
  day : Nat
deriving Repr, DecidableEq

/-- The date that lies some days after the first of January 1970. Years are counted from
the first of March, so that a leap day ends its year, in periods of 400 years. -/
def Date.ofDays (days : Nat) : Date :=
  let fromMarch := days + 719468
  let period := fromMarch / 146097
  let dayOfPeriod := fromMarch % 146097
  let yearOfPeriod :=
    (dayOfPeriod - dayOfPeriod / 1460 + dayOfPeriod / 36524 - dayOfPeriod / 146096) / 365
  let dayOfYear := dayOfPeriod - (365 * yearOfPeriod + yearOfPeriod / 4 - yearOfPeriod / 100)
  let monthFromMarch := (5 * dayOfYear + 2) / 153
  let month := if monthFromMarch < 10 then monthFromMarch + 3 else monthFromMarch - 9
  { year := 400 * period + yearOfPeriod + (if month ≤ 2 then 1 else 0)
    month
    day := dayOfYear - (153 * monthFromMarch + 2) / 5 + 1 }

/-- A number in at least two digits. -/
def twoDigits (value : Nat) : String :=
  if value < 10 then s!"0{value}" else s!"{value}"

/-- The text of the time that lies some seconds after the start of 1970. -/
def timeText (seconds : Nat) : String :=
  let date := Date.ofDays (seconds / 86400)
  let hour := twoDigits (seconds / 3600 % 24)
  let minute := twoDigits (seconds / 60 % 60)
  let second := twoDigits (seconds % 60)
  s!"{date.year}-{twoDigits date.month}-{twoDigits date.day}T{hour}:{minute}:{second}Z"

end AacConfig.Log
