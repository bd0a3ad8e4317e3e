/-!
This module contains dates of the proleptic Gregorian calendar and times of day.
-/

namespace Counterpart.Calendar

structure Moment where
  year : Int := 0
  month : Nat := 0
  day : Nat := 0
  hour : Nat := 0
  minute : Nat := 0
  second : Nat := 0
  deriving DecidableEq, Repr

def isLeap (year : Int) : Bool :=
  year % 4 == 0 && (year % 100 != 0 || year % 400 == 0)

def daysIn (year : Int) (month : Nat) : Nat :=
  if month = 2 then
    if isLeap year then 29 else 28
  else if month = 4 ∨ month = 6 ∨ month = 9 ∨ month = 11 then
    30
  else if 1 ≤ month ∧ month ≤ 12 then
    31
  else
    0

namespace Moment

def IsDate (m : Moment) : Prop :=
  -- The calendar covers a little over a quarter of a million years in both directions.
  -262143 ≤ m.year ∧ m.year ≤ 262142 ∧ 1 ≤ m.day ∧ m.day ≤ daysIn m.year m.month

/-- Any minute may have a leap second. -/
def IsTime (m : Moment) : Prop := m.hour ≤ 23 ∧ m.minute ≤ 59 ∧ m.second ≤ 60

instance (m : Moment) : Decidable m.IsDate := inferInstanceAs (Decidable (_ ∧ _ ∧ _ ∧ _))

instance (m : Moment) : Decidable m.IsTime := inferInstanceAs (Decidable (_ ∧ _ ∧ _))

def exists? (m : Moment) : Bool := m.IsDate && m.IsTime

end Moment

end Counterpart.Calendar
