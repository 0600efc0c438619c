/-
Module: LooseKeys.Timestamp
Purpose: Points in time, and the proleptic Gregorian calendar.
Main exports: Timestamp, daysFromCivil, civilFromDays
-/

/-!
A point in time counts seconds from the start of 1970 in universal time.  A leap second shares
the count of the second before it and has a second's worth of nanoseconds more.

The calendar arithmetic takes March as the first month of a year, so that the leap day is the
last day of one; an era is four hundred years.
-/

namespace LooseKeys

/-- A point in time; `nanos` reaches past a thousand million within a leap second. -/
structure Timestamp where
  seconds : Int
  nanos : Nat
deriving DecidableEq, Repr, Inhabited

namespace Timestamp

/-- The start of 1970. -/
def epoch : Timestamp := { seconds := 0, nanos := 0 }

/-- Whether a point in time is not after another. -/
def notAfter (first second : Timestamp) : Bool :=
  first.seconds < second.seconds
    || (first.seconds = second.seconds && first.nanos ≤ second.nanos)

/-- A day of the calendar. -/
structure Date where
  year : Int
  month : Nat
  day : Nat
deriving DecidableEq, Repr

def isLeapYear (year : Int) : Bool :=
  year % 4 = 0 && (year % 100 ≠ 0 || year % 400 = 0)

/-- The number of days of a month. -/
def daysInMonth (year : Int) (month : Nat) : Nat :=
  if month = 2 then (if isLeapYear year then 29 else 28)
  else if month = 4 ∨ month = 6 ∨ month = 9 ∨ month = 11 then 30
  else 31

/-- The number of days from the start of 1970 to a date. -/
def daysFromCivil (date : Date) : Int :=
  let year := if date.month ≤ 2 then date.year - 1 else date.year
  let era := year.fdiv 400
  let yearOfEra := year - era * 400
  let marchMonth : Int := ((date.month + 9) % 12 : Nat)
  let dayOfYear := (153 * marchMonth + 2) / 5 + date.day - 1
  let dayOfEra := yearOfEra * 365 + yearOfEra / 4 - yearOfEra / 100 + dayOfYear
  era * 146097 + dayOfEra - 719468

/-- The date a number of days after the start of 1970. -/
def civilFromDays (days : Int) : Date :=
  let shifted := days + 719468
  let era := shifted.fdiv 146097
  let dayOfEra := shifted - era * 146097
  let yearOfEra :=
    (dayOfEra - dayOfEra / 1460 + dayOfEra / 36524 - dayOfEra / 146096) / 365
  let dayOfYear := dayOfEra - (365 * yearOfEra + yearOfEra / 4 - yearOfEra / 100)
  let marchMonth := (5 * dayOfYear + 2) / 153
  let day := dayOfYear - (153 * marchMonth + 2) / 5 + 1
  let month := if marchMonth < 10 then marchMonth + 3 else marchMonth - 9
  let year := yearOfEra + era * 400 + (if month ≤ 2 then 1 else 0)
  { year, month := month.toNat, day := day.toNat }

example : daysFromCivil ⟨2000, 2, 29⟩ = 11016 ∧ civilFromDays 11016 = ⟨2000, 2, 29⟩
    ∧ civilFromDays (-1) = ⟨1969, 12, 31⟩ := by decide

end Timestamp

end LooseKeys
