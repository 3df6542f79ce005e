import ScopedSql.Decimal.Whole
import ScopedSql.Time.Calendar

namespace ScopedSql
namespace Time

/-!
# Writing timestamps

A timestamp is written as `year-month-day hour:minute:second`, every part two
digits wide and the year four.  A year outside that width carries its sign.  A
fraction of a second follows with three, six or nine digits, whichever is the
first to hold it exactly, and a whole second has none.
-/

/-- A year with four digits; a sign in front where four digits do not hold it. -/
def printYear (year : Int) : List Char :=
  if 0 ≤ year ∧ year ≤ 9999 then Decimal.padded 4 year.toNat
  else (if year < 0 then '-' else '+') :: Decimal.padded 4 year.natAbs

/-- A fraction of a second, in the first of three widths that is exact. -/
def printFraction (nanosecond : Nat) : List Char :=
  if nanosecond = 0 then []
  else if nanosecond % 1000000 = 0 then '.' :: Decimal.padded 3 (nanosecond / 1000000)
  else if nanosecond % 1000 = 0 then '.' :: Decimal.padded 6 (nanosecond / 1000)
  else '.' :: Decimal.padded 9 nanosecond

def Timestamp.print (t : Timestamp) : List Char :=
  printYear t.year ++ '-' :: Decimal.padded 2 t.month ++ '-' :: Decimal.padded 2 t.day ++
    ' ' :: Decimal.padded 2 t.hour ++ ':' :: Decimal.padded 2 t.minute ++
    ':' :: Decimal.padded 2 t.second ++ printFraction t.nanosecond

def Timestamp.text (t : Timestamp) : String :=
  String.ofList t.print

end Time
end ScopedSql
