import ScopedSql.Decimal.Whole
import ScopedSql.Text.Blank
import ScopedSql.Text.Hex

namespace ScopedSql
namespace Ipv4

/-!
# Internet addresses in numbers

An address is a number of 32 bits.  It is read as up to four numbers with points
between them.  All but the last are bytes, and the last fills what is left.  A
number that begins with a zero is octal, and after `0x` it is hexadecimal.  It
is written as four decimal numbers with points between them.
-/

/-- The number of digits to a base, if all of them are below it. -/
def ofDigits? (base : Nat) (cs : List Char) : Option Nat := do
  let ds <- cs.mapM Text.hexDigit?
  if ds.all (fun d => d < base) then some (ds.foldl (fun n d => n * base + d) 0) else none

/-- A number in one of the three bases.  There need be no digits after `0x`. -/
def number? : List Char -> Option Nat
  | [] => none
  | '0' :: 'x' :: rest => ofDigits? 16 rest
  | '0' :: 'X' :: rest => ofDigits? 16 rest
  | '0' :: rest => ofDigits? 8 rest
  | cs => ofDigits? 10 cs

/-- The parts between points.  A point at the end does not count. -/
def parts (cs : List Char) : List (List Char) :=
  let parts := Text.splitOn '.' cs
  if parts.getLast? = some [] then parts.dropLast else parts

/-- A host whose last part is a number, or looks like one, is meant as an address. -/
def isMeant (cs : List Char) : Bool :=
  (parts cs).getLast?.any (fun last =>
    !last.isEmpty && last.all Char.isDigit || (number? last).isSome)

def read (cs : List Char) : Option Nat := do
  let numbers <- (parts cs).mapM number?
  let first := numbers.dropLast
  let last <- numbers.getLast?
  if 3 < first.length || first.any (fun n => 256 ≤ n) ||
      Nat.pow 256 (4 - first.length) ≤ last then none
  else
    some ((first ++ List.replicate (4 - first.length) 0).foldl (fun n byte => n * 256 + byte) 0
      + last)

def write (address : Nat) : List Char :=
  ['.'].intercalate
    ([address / Nat.pow 256 3, address / Nat.pow 256 2 % 256, address / 256 % 256,
      address % 256].map Decimal.digits)

end Ipv4
end ScopedSql
