/-!
Dates of the Gregorian calendar, extended backwards to year one.

A `Date` carries the proof that it exists. Week dates count weeks from the Monday of the week
that holds the year's first Thursday.
-/

namespace NestedSelect.Calendar

def isLeapYear (year : Nat) : Bool := year % 4 == 0 && (year % 100 != 0 || year % 400 == 0)

def daysInMonth (year month : Nat) : Nat :=
  if month == 2 then (if isLeapYear year then 29 else 28)
  else if month == 4 || month == 6 || month == 9 || month == 11 then 30 else 31

def IsDate (year month day : Nat) : Prop :=
  1 ≤ year ∧ year ≤ 9999 ∧ 1 ≤ month ∧ month ≤ 12 ∧ 1 ≤ day ∧ day ≤ daysInMonth year month

instance (year month day : Nat) : Decidable (IsDate year month day) := by
  unfold IsDate; infer_instance

structure Date where
  year : Nat
  month : Nat
  day : Nat
  exists_ : IsDate year month day
  deriving DecidableEq

def Date.ofYmd? (year month day : Nat) : Option Date :=
  if valid : IsDate year month day then some ⟨year, month, day, valid⟩ else none

/-- The number of days before the first of January, counted from the one of year one. -/
def daysBeforeYear (year : Nat) : Nat :=
  let past := year - 1
  past * 365 + past / 4 - past / 100 + past / 400

def daysOfMonths (year : Nat) : Nat → Nat
  | 0 => 0
  | months + 1 => daysOfMonths year months + daysInMonth year (months + 1)

def Date.dayNumber (d : Date) : Nat :=
  daysBeforeYear d.year + daysOfMonths d.year (d.month - 1) + (d.day - 1)

def daysInYear (year : Nat) : Nat := if isLeapYear year then 366 else 365

def firstWeekday (year : Nat) : Nat := daysBeforeYear year % 7

def hasLongYear (year : Nat) : Bool :=
  firstWeekday year == 3 || (firstWeekday year == 2 && isLeapYear year)

private def monthAndDay (year : Nat) (dayOfYear : Nat) : Nat → Nat → Nat × Nat
  | month, 0 => (month, dayOfYear)
  | month, months + 1 =>
      if dayOfYear ≤ daysInMonth year month then (month, dayOfYear)
      else monthAndDay year (dayOfYear - daysInMonth year month) (month + 1) months

/-- The date of a day of the year, the first of January being day 1. -/
def Date.ofDayOfYear? (year dayOfYear : Nat) : Option Date :=
  let found := monthAndDay year dayOfYear 1 11
  Date.ofYmd? year found.1 found.2

def Date.ofWeek? (year week day : Nat) : Option Date :=
  let weeks := if hasLongYear year then 53 else 52
  if 1 ≤ year && 1 ≤ week && week ≤ weeks && 1 ≤ day && day ≤ 7 then
    let first := firstWeekday year
    -- the Monday of week 1 is day `1 - first` of the year, or one week later
    let shift : Int := if first ≤ 3 then 1 - (first : Int) else 8 - (first : Int)
    let dayOfYear : Int := shift + 7 * ((week : Int) - 1) + ((day : Int) - 1)
    if dayOfYear < 1 then Date.ofDayOfYear? (year - 1) (dayOfYear + daysInYear (year - 1)).toNat
    else if (daysInYear year : Int) < dayOfYear then
      Date.ofDayOfYear? (year + 1) (dayOfYear - daysInYear year).toNat
    else Date.ofDayOfYear? year dayOfYear.toNat
  else none

end NestedSelect.Calendar
