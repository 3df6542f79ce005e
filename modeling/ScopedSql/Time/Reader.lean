import ScopedSql.Decimal.Nearest
import ScopedSql.Text.Blank
import ScopedSql.Time.Calendar

namespace ScopedSql
namespace Time

/-!
# Reading timestamps

A timestamp is a date, then a time of day, or a date alone, which stands for
its midnight.  White space is allowed in front of every number and between the
date and the time, but not in front of a separator nor at the end.  A year
without sign has at most four digits, a year with a sign any number; the other
parts have one or two.  A fraction of a second needs a digit after its point,
and digits beyond the ninth are passed over.
-/

/-- Read at least one digit and at most `width`, without white space in front. -/
def readDigits (width : Nat) (cs : List Char) : Option (Nat × List Char) :=
  let taken := (cs.take width).takeWhile Char.isDigit
  if taken.isEmpty then none
  else some (Decimal.ofDigits taken, cs.drop taken.length)

def readPart (low high : Nat) (cs : List Char) : Option (Nat × List Char) := do
  let (n, rest) <- readDigits 2 (cs.dropWhile Text.isBlank)
  if low ≤ n ∧ n ≤ high then some (n, rest) else none

def readMark (mark : Char) : List Char -> Option (List Char)
  | [] => none
  | c :: rest => if c = mark then some rest else none

/-- Read a year: up to four digits, or a sign and any number of digits. -/
def readYear (cs : List Char) : Option (Int × List Char) :=
  match cs.dropWhile Text.isBlank with
  | '-' :: rest => (readDigits rest.length rest).map (fun read => (-(read.1 : Int), read.2))
  | '+' :: rest => (readDigits rest.length rest).map (fun read => ((read.1 : Int), read.2))
  | rest => (readDigits 4 rest).map (fun read => ((read.1 : Int), read.2))

/-- Read a date; its parts are not yet checked against the calendar. -/
def readDate (cs : List Char) : Option (Timestamp × List Char) := do
  let (year, rest) <- readYear cs
  let rest <- readMark '-' rest
  let (month, rest) <- readPart 1 12 rest
  let rest <- readMark '-' rest
  let (day, rest) <- readPart 1 31 rest
  return (midnight year month day, rest)

/-- Read a fraction of a second in nanoseconds; none if there is no point. -/
def readFraction : List Char -> Option (Nat × List Char)
  | '.' :: rest => do
    let (n, after) <- readDigits 9 rest
    let count := rest.length - after.length
    return (n * Nat.pow 10 (9 - count), after.dropWhile Char.isDigit)
  | rest => some (0, rest)

/-- Read a time of day onto a date. -/
def readTime (date : Timestamp) (cs : List Char) : Option (Timestamp × List Char) := do
  let (hour, rest) <- readPart 0 23 cs
  let rest <- readMark ':' rest
  let (minute, rest) <- readPart 0 59 rest
  let rest <- readMark ':' rest
  let (second, rest) <- readPart 0 60 rest
  let (nanosecond, rest) <- readFraction rest
  return ({ date with hour, minute, second, nanosecond }, rest)

/-- Read a date with a time of day that uses up the whole text. -/
def readDateTime (cs : List Char) : Option Timestamp := do
  let (date, rest) <- readDate cs
  let (t, rest) <- readTime date rest
  if rest.isEmpty ∧ t.Valid then some t else none

def readDateOnly (cs : List Char) : Option Timestamp := do
  let (date, rest) <- readDate cs
  if rest.isEmpty ∧ date.Valid then some date else none

/-- Read a timestamp; a date alone is its midnight. -/
def Timestamp.read (text : String) : Option Timestamp :=
  (readDateTime text.toList).or (readDateOnly text.toList)

end Time
end ScopedSql
