import SqlDialects.Number.Integer

/-!
# Calendar dates

Dates of the proleptic Gregorian calendar from year 1 to year 9999, their day
numbers and the weeks of the ISO calendar.
-/

namespace SqlDialects

namespace Calendar

def isLeapYear (year : Nat) : Bool :=
  year % 4 == 0 && (year % 100 != 0 || year % 400 == 0)

def daysInMonth (year month : Nat) : Nat :=
  match month with
  | 2 => if isLeapYear year then 29 else 28
  | 4 | 6 | 9 | 11 => 30
  | _ => 31

inductive Fault where
  | year (value : Nat)
  | month
  | day
  | hour
  | minute
  | second
  | offset (microseconds : Int)
  | afterLastYear
deriving DecidableEq, Repr

end Calendar

structure Date where
  year : Nat
  month : Nat
  day : Nat
  inRange : (1 ≤ year ∧ year ≤ 9999) ∧ (1 ≤ month ∧ month ≤ 12)
    ∧ 1 ≤ day ∧ day ≤ Calendar.daysInMonth year month
deriving DecidableEq, Repr

namespace Date

open Calendar

instance : Inhabited Date := ⟨⟨1, 1, 1, by decide⟩⟩

/-- The year is checked first, then the month, then the day. -/
def ofNumbers (year month day : Nat) : Except Fault Date :=
  if hYear : 1 ≤ year ∧ year ≤ 9999 then
    if hMonth : 1 ≤ month ∧ month ≤ 12 then
      if hDay : 1 ≤ day ∧ day ≤ daysInMonth year month then
        .ok ⟨year, month, day, hYear, hMonth, hDay⟩
      else .error .day
    else .error .month
  else .error (.year year)

end Date

namespace Calendar

/-! ## Day numbers -/

def daysBeforeYear (year : Nat) : Nat :=
  let before := year - 1
  before * 365 + before / 4 - before / 100 + before / 400

def daysBeforeMonth (year : Nat) : (month : Nat) → Nat
  | 0 | 1 => 0
  | month + 2 => daysBeforeMonth year (month + 1) + daysInMonth year (month + 1)

def monthAndDay (year : Nat) : (remaining month dayOfYear : Nat) → Nat × Nat
  | 0, month, dayOfYear => (month, dayOfYear + 1)
  | remaining + 1, month, dayOfYear =>
    if dayOfYear < daysInMonth year month then (month, dayOfYear + 1)
    else monthAndDay year remaining (month + 1) (dayOfYear - daysInMonth year month)

def yearOfDay (dayNumber : Nat) : (fuel year : Nat) → Nat
  | 0, year => year
  | fuel + 1, year =>
    if daysBeforeYear (year + 1) < dayNumber then yearOfDay dayNumber fuel (year + 1) else year

/-- The year, month and day of a day number; day 1 is the first day of year 1. -/
def ofDayNumber (dayNumber : Nat) : Nat × Nat × Nat :=
  let year := yearOfDay dayNumber 64 (dayNumber / 366)
  let (month, day) := monthAndDay year 11 1 (dayNumber - daysBeforeYear year - 1)
  (year, month, day)

/-! ## ISO weeks -/

def firstWeekday (year : Nat) : Nat :=
  (daysBeforeYear year + 7) % 7

def weeksInYear (year : Nat) : Nat :=
  if firstWeekday year = 3 ∨ (firstWeekday year = 2 ∧ isLeapYear year) then 53 else 52

/-- The day number of the Monday that starts the first week of a year, which is
the week of its first Thursday. -/
def firstMonday (year : Nat) : Int :=
  let first : Int := (daysBeforeYear year : Int) + 1
  let weekday : Int := firstWeekday year
  if 3 < weekday then first - weekday + 7 else first - weekday

def dayOfWeek? (year week weekday : Nat) : Option Nat :=
  if 1 ≤ year ∧ year ≤ 9999 ∧ 1 ≤ week ∧ week ≤ weeksInYear year ∧ 1 ≤ weekday ∧ weekday ≤ 7 then
    some (firstMonday year + ((week - 1) * 7 + (weekday - 1) : Nat)).toNat
  else none

/-! ## Writing -/

def padded (width number : Nat) : List Char :=
  let digits := Nat.toDigits 10 number
  List.replicate (width - digits.length) '0' ++ digits

end Calendar

def Date.isoChars (date : Date) : List Char :=
  Calendar.padded 4 date.year ++ '-' :: Calendar.padded 2 date.month
    ++ '-' :: Calendar.padded 2 date.day

def Date.isoText (date : Date) : String :=
  String.ofList date.isoChars

end SqlDialects
