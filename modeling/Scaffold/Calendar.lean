import Scaffold.Descriptor

/-!
# The calendar

Days are counted from the beginning of 1970.  Years are counted from March, so that the leap
day is the last day of a year, and in eras of four hundred years, which all have the same
length.
-/

namespace Scaffold

/-- A date of the Gregorian calendar. -/
structure Date where
  /-- The year; the one before year 1 is year 0. -/
  year : Int
  /-- The month, from 1. -/
  month : Nat
  /-- The day of the month, from 1. -/
  day : Nat
deriving Repr, DecidableEq

namespace Date

/-- Decide whether a year has a leap day. -/
def isLeapYear (year : Int) : Bool := year % 4 == 0 && (year % 100 != 0 || year % 400 == 0)

/-- The number of days of a month. -/
def daysInMonth (year : Int) (month : Nat) : Nat :=
  match month with
  | 2 => if isLeapYear year then 29 else 28
  | 4 | 6 | 9 | 11 => 30
  | _ => 31

/-- Decide whether a date is on the calendar. -/
def isValid (d : Date) : Bool :=
  1 ≤ d.month && d.month ≤ 12 && 1 ≤ d.day && d.day ≤ daysInMonth d.year d.month

/-- The number of days in an era. -/
def eraDays : Int := 146097

/-- The days from the beginning of 1970 to a date. -/
def toDays (d : Date) : Int :=
  let year := if d.month ≤ 2 then d.year - 1 else d.year
  let era := year.fdiv 400
  let yearOfEra := year - era * 400
  let monthFromMarch : Int := (d.month + 9) % 12
  let dayOfYear := (153 * monthFromMarch + 2) / 5 + d.day - 1
  let dayOfEra := yearOfEra * 365 + yearOfEra / 4 - yearOfEra / 100 + dayOfYear
  era * eraDays + dayOfEra - 719468

/-- The date so many days after the beginning of 1970. -/
def ofDays (days : Int) : Date :=
  let shifted := days + 719468
  let era := shifted.fdiv eraDays
  let dayOfEra := shifted - era * eraDays
  let yearOfEra := (dayOfEra - dayOfEra / 1460 + dayOfEra / 36524 - dayOfEra / 146096) / 365
  let dayOfYear := dayOfEra - (365 * yearOfEra + yearOfEra / 4 - yearOfEra / 100)
  let monthFromMarch := (5 * dayOfYear + 2) / 153
  let day := dayOfYear - (153 * monthFromMarch + 2) / 5 + 1
  let month := if monthFromMarch < 10 then monthFromMarch + 3 else monthFromMarch - 9
  let year := yearOfEra + era * 400 + (if month ≤ 2 then 1 else 0)
  ⟨year, month.toNat, day.toNat⟩

end Date

/-- The seconds of a day. -/
def daySeconds : Int := 86400

/-- The date of a moment in universal time. -/
def Instant.date (t : Instant) : Date := .ofDays (t.seconds.fdiv daySeconds)

example : Date.toDays ⟨1970, 1, 1⟩ = 0 ∧ Date.ofDays 0 = ⟨1970, 1, 1⟩ := by decide
example : Date.ofDays (Date.toDays ⟨2024, 2, 29⟩) = ⟨2024, 2, 29⟩ := by decide
example : Date.ofDays (Date.toDays ⟨-1, 12, 31⟩ + 1) = ⟨0, 1, 1⟩ := by decide

end Scaffold
