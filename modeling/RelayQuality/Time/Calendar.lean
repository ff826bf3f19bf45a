/-!
# Calendar time

A `Timestamp` is a moment in UTC. `Timestamp.civil` finds its day in the Gregorian calendar, counted
back without end and with a year zero.
-/

namespace RelayQuality

/-- A moment: seconds of the epoch and nanoseconds into that second. -/
structure Timestamp where
  secs : Int
  nanos : Nat
deriving DecidableEq, Repr, Inhabited

/-- A day of the Gregorian calendar. -/
structure CivilDay where
  year : Int
  month : Nat
  day : Nat
deriving DecidableEq, Repr

namespace CivilDay

/-- The day that lies so many days after 1 January 1970. Years are counted from March, so that a leap
day is the last of its year, in eras of 400 years. -/
def ofDays (days : Int) : CivilDay :=
  let shifted := days + 719468
  let era := shifted / 146097
  let dayOfEra := (shifted % 146097).toNat
  let yearOfEra := (dayOfEra - dayOfEra / 1460 + dayOfEra / 36524 - dayOfEra / 146096) / 365
  let dayOfYear := dayOfEra - (365 * yearOfEra + yearOfEra / 4 - yearOfEra / 100)
  let monthFromMarch := (5 * dayOfYear + 2) / 153
  let day := dayOfYear - (153 * monthFromMarch + 2) / 5 + 1
  let month := if monthFromMarch < 10 then monthFromMarch + 3 else monthFromMarch - 9
  let year := (yearOfEra : Int) + era * 400
  ⟨if month ≤ 2 then year + 1 else year, month, day⟩

end CivilDay

/-- The decimal digits of a number, filled up with zeros on the left. -/
def zeroPadded (width n : Nat) : String :=
  let digits := toString n
  String.ofList (List.replicate (width - digits.length) '0') ++ digits

namespace Timestamp

def civil (t : Timestamp) : CivilDay := CivilDay.ofDays (t.secs / 86400)

def secondOfDay (t : Timestamp) : Nat := (t.secs % 86400).toNat

/-- A year with at least four digits, and with a sign outside 0 to 9999. -/
def yearText (year : Int) : String :=
  if 0 ≤ year ∧ year ≤ 9999 then zeroPadded 4 year.toNat
  else (if year < 0 then "-" else "+") ++ zeroPadded 4 year.natAbs

/-- The fraction of a second in 0, 3, 6 or 9 digits, the fewest that are exact. -/
def fractionText (nanos : Nat) : String :=
  if nanos = 0 then ""
  else if nanos % 1000000 = 0 then "." ++ zeroPadded 3 (nanos / 1000000)
  else if nanos % 1000 = 0 then "." ++ zeroPadded 6 (nanos / 1000)
  else "." ++ zeroPadded 9 nanos

/-- The moment as internet timestamps write it, in UTC. -/
def text (t : Timestamp) : String :=
  let day := t.civil
  let s := t.secondOfDay
  yearText day.year ++ "-" ++ zeroPadded 2 day.month ++ "-" ++ zeroPadded 2 day.day ++ "T"
    ++ zeroPadded 2 (s / 3600) ++ ":" ++ zeroPadded 2 (s / 60 % 60) ++ ":" ++ zeroPadded 2 (s % 60)
    ++ fractionText t.nanos ++ "Z"

/-- The moment as it stands in file names, to the second. -/
def fileStamp (t : Timestamp) : String :=
  let day := t.civil
  let s := t.secondOfDay
  yearText day.year ++ zeroPadded 2 day.month ++ zeroPadded 2 day.day ++ "-"
    ++ zeroPadded 2 (s / 3600) ++ zeroPadded 2 (s / 60 % 60) ++ zeroPadded 2 (s % 60)

end Timestamp

end RelayQuality
