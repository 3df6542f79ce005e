namespace ScopedSql
namespace Time

/-!
# Dates and times of day

The Gregorian calendar, carried backwards without end, with a year zero.  A
time of day may fall into a leap second, which is second 60 of any minute.
-/

/-- Is there a 29th of February? -/
def isLeapYear (year : Int) : Bool :=
  year % 4 = 0 && (year % 100 ≠ 0 || year % 400 = 0)

def daysInMonth (year : Int) (month : Nat) : Nat :=
  if month = 2 then (if isLeapYear year then 29 else 28)
  else if month = 4 ∨ month = 6 ∨ month = 9 ∨ month = 11 then 30
  else 31

/-- The first and the last year that a date may have. -/
def firstYear : Int := -262143

/-- The last year that a date may have. -/
def lastYear : Int := 262142

/-- A date and a time of day, to the nanosecond, without a time zone. -/
structure Timestamp where
  year : Int
  month : Nat
  day : Nat
  hour : Nat
  minute : Nat
  second : Nat
  nanosecond : Nat
  deriving DecidableEq, Repr

/-- The numbers name a day of the calendar and a time of that day. -/
def Timestamp.Valid (t : Timestamp) : Prop :=
  firstYear ≤ t.year ∧ t.year ≤ lastYear ∧
    1 ≤ t.month ∧ t.month ≤ 12 ∧ 1 ≤ t.day ∧ t.day ≤ daysInMonth t.year t.month ∧
    t.hour < 24 ∧ t.minute < 60 ∧ t.second ≤ 60 ∧ t.nanosecond < 1000000000

instance (t : Timestamp) : Decidable t.Valid := by
  unfold Timestamp.Valid
  infer_instance

def midnight (year : Int) (month day : Nat) : Timestamp :=
  ⟨year, month, day, 0, 0, 0, 0⟩

end Time
end ScopedSql
