/-
The Gregorian calendar, extended to all years.

A day is counted from 1970-01-01. The count of a date adds up the days of the years before it, in cycles of
400 years with 97 leap days, where a year is taken to begin in March so that the leap day is its last.
-/
namespace EntityHistory

/-- A day, counted from 1970-01-01. -/
structure Date where
  day : Int
deriving DecidableEq, Repr, Inhabited, Ord

/-- Whether a year has a leap day. -/
def isLeapYear (year : Int) : Bool := year % 4 = 0 ∧ (year % 100 ≠ 0 ∨ year % 400 = 0)

/-- The number of days of a month. -/
def daysInMonth (year : Int) (month : Nat) : Nat :=
  if month = 2 then (if isLeapYear year then 29 else 28)
  else if month = 4 ∨ month = 6 ∨ month = 9 ∨ month = 11 then 30
  else 31

namespace Date

/-- The date with the given year, month and day of the month, if the calendar has it. -/
def ofCivil? (year : Int) (month day : Nat) : Option Date :=
  if 1 ≤ month ∧ month ≤ 12 ∧ 1 ≤ day ∧ day ≤ daysInMonth year month then
    let y := if month ≤ 2 then year - 1 else year
    let cycle := y / 400
    let yearOfCycle := y % 400
    let monthFromMarch : Int := (month + 9) % 12
    let dayOfYear := (153 * monthFromMarch + 2) / 5 + day - 1
    let dayOfCycle := yearOfCycle * 365 + yearOfCycle / 4 - yearOfCycle / 100 + dayOfYear
    some ⟨cycle * 146097 + dayOfCycle - 719468⟩
  else none

/-- The year, month and day of the month of a date. -/
def civil (d : Date) : Int × Nat × Nat :=
  let z := d.day + 719468
  let cycle := z / 146097
  let dayOfCycle := z % 146097
  let yearOfCycle :=
    (dayOfCycle - dayOfCycle / 1460 + dayOfCycle / 36524 - dayOfCycle / 146096) / 365
  let dayOfYear := dayOfCycle - (365 * yearOfCycle + yearOfCycle / 4 - yearOfCycle / 100)
  let monthFromMarch := (5 * dayOfYear + 2) / 153
  let day := dayOfYear - (153 * monthFromMarch + 2) / 5 + 1
  let month := if monthFromMarch < 10 then monthFromMarch + 3 else monthFromMarch - 9
  let year := yearOfCycle + cycle * 400
  (if month ≤ 2 then year + 1 else year, month.toNat, day.toNat)

end Date

end EntityHistory
