/-!
# Moments

A moment is counted in nanoseconds from the start of 1970, and written with its date and time of
day in universal time. Days are turned into dates of the Gregorian calendar by counting from the
first of March of the year 0: then a leap day is the last day of its year, and the calendar repeats
itself after 400 years.
-/

namespace TrigramSearch

/-- A moment since the start of 1970. -/
structure Moment where
  nanoseconds : Nat
deriving DecidableEq, Inhabited

/-- A day of the Gregorian calendar. -/
structure Date where
  year : Nat
  month : Nat
  day : Nat
deriving DecidableEq, Inhabited

/-- The days of 400 years. -/
def daysPerCycle : Nat := 146097

/-- The days from the first of March of the year 0 to the start of 1970. -/
def daysBefore1970 : Nat := 719468

/-- The date of a day counted from the start of 1970. -/
def Date.ofDay (day : Nat) : Date :=
  let n := day + daysBefore1970
  let inCycle := n % daysPerCycle
  let years := (inCycle - inCycle / 1460 + inCycle / 36524 - inCycle / 146096) / 365
  let inYear := inCycle - (365 * years + years / 4 - years / 100)
  let monthFromMarch := (5 * inYear + 2) / 153
  { year := n / daysPerCycle * 400 + years + (if monthFromMarch < 10 then 0 else 1)
    month := if monthFromMarch < 10 then monthFromMarch + 3 else monthFromMarch - 9
    day := inYear - (153 * monthFromMarch + 2) / 5 + 1 }

namespace Moment

/-- A number with zeros in front of it up to a width. -/
def padded (width n : Nat) : String :=
  let ds := Nat.toDigits 10 n
  String.ofList (List.replicate (width - ds.length) '0' ++ ds)

/-- The fraction of a second, with as many groups of three digits as it needs. -/
def fractionText (nanos : Nat) : String :=
  if nanos = 0 then ""
  else if nanos % 1000000 = 0 then "." ++ padded 3 (nanos / 1000000)
  else if nanos % 1000 = 0 then "." ++ padded 6 (nanos / 1000)
  else "." ++ padded 9 nanos

/-- Date and time of day. -/
def text (m : Moment) : String :=
  let seconds := m.nanoseconds / 1000000000
  let date := Date.ofDay (seconds / 86400)
  let time := seconds % 86400
  padded 4 date.year ++ "-" ++ padded 2 date.month ++ "-" ++ padded 2 date.day ++ "T" ++
    padded 2 (time / 3600) ++ ":" ++ padded 2 (time / 60 % 60) ++ ":" ++ padded 2 (time % 60) ++
    fractionText (m.nanoseconds % 1000000000) ++ "Z"

end Moment
end TrigramSearch
