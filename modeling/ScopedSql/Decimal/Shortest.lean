import ScopedSql.Decimal.Whole

namespace ScopedSql
namespace Decimal

/-!
# The fewest digits that read back

A finite double is a number `m * 2 ^ q`.  The reals that round to it form an
interval around it, whose ends belong to it when `m` is even.  For one digit,
two digits, and so on, the two neighbours of the double on the grid of that
many digits are tested against the interval; the first grid with a hit wins,
and of two hits the nearer one.  If any point of a grid lies in the interval,
one of the two neighbours does, so no decimal with fewer digits reads back.

All comparisons are between whole numbers over one common denominator.
-/

/-- Which of two equally near neighbours is taken. -/
inductive Tie
  | up
  | even
  deriving DecidableEq, Repr

/-- A positive finite double, as `m * 2 ^ q`.  Just above a power of two the
doubles below lie twice as close; `narrow` says that this is so here. -/
structure Binary where
  m : Nat
  q : Int
  narrow : Bool
  deriving DecidableEq, Repr

/-- The number that the bits of a finite double stand for, without its sign. -/
def Binary.ofBits (bits : Nat) : Binary :=
  let fraction : Nat := bits % Nat.pow 2 52
  let exponent : Nat := bits / Nat.pow 2 52 % Nat.pow 2 11
  if exponent = 0 then ⟨fraction, -1074, false⟩
  else ⟨fraction + Nat.pow 2 52, (exponent : Int) - 1075, fraction = 0 && 1 < exponent⟩

/-- Decimal digits, the first one not zero, and the number of places before the
point: `0.d1d2d3... * 10 ^ point`. -/
structure Digits where
  ds : List Char
  point : Int
  deriving DecidableEq, Repr

/-- A value and the interval that rounds to it, as numerators over one denominator. -/
structure Span where
  low : Nat
  mid : Nat
  high : Nat
  den : Nat
  closed : Bool

/-- The reals that round to a double. -/
def Binary.span (b : Binary) : Span :=
  let up := Nat.pow 2 b.q.toNat
  { low := (4 * b.m - if b.narrow then 1 else 2) * up
    mid := 4 * b.m * up
    high := (4 * b.m + 2) * up
    den := 4 * Nat.pow 2 (-b.q).toNat
    closed := b.m % 2 = 0 }

/-- The number of places before the point of a positive quotient; zero or less
when it is below one tenth's worth of places. -/
def places (num den : Nat) : Int :=
  if den ≤ num then (digits (num / den)).length
  else
    let inverse := (digits (den / num)).length
    if num * Nat.pow 10 (inverse - 1) = den then 2 - (inverse : Int) else 1 - (inverse : Int)

/-- The value on the grid of `10 ^ k` that stands for the span: the neighbour
inside it, or the nearer one of two. -/
def Span.onGrid (span : Span) (tie : Tie) (k : Int) : Option Nat :=
  let grow := Nat.pow 10 (-k).toNat
  let step := span.den * Nat.pow 10 k.toNat
  let below := span.mid * grow / step
  let inside (c : Nat) : Bool :=
    if span.closed then span.low * grow ≤ c * step && c * step ≤ span.high * grow
    else span.low * grow < c * step && c * step < span.high * grow
  let gap := span.mid * grow - below * step
  match inside below, inside (below + 1) with
  | false, false => none
  | true, false => some below
  | false, true => some (below + 1)
  | true, true =>
    if 2 * gap < step then some below
    else if step < 2 * gap then some (below + 1)
    else
      match tie with
      | .up => some (below + 1)
      | .even => some (if below % 2 = 0 then below else below + 1)

/-- Try grids of more and more digits, `fuel` of them at most. -/
def Span.search (span : Span) (tie : Tie) (point : Int) : Nat -> Nat -> Nat × Int
  | 0, _ => (span.mid / span.den, 0)
  | fuel + 1, count =>
    match span.onGrid tie (point - count) with
    | some c => (c, point - count)
    | none => span.search tie point fuel (count + 1)

/-- Drop the zeros at the end, but keep one digit. -/
def dropZeros (ds : List Char) : List Char :=
  match (ds.reverse.dropWhile (fun c => c = '0')).reverse with
  | [] => ['0']
  | kept => kept

/-- The shortest digits of a positive finite double.  Seventeen digits always suffice. -/
def Binary.shortest (b : Binary) (tie : Tie) : Digits :=
  let span := b.span
  let (number, k) := span.search tie (places span.mid span.den) 17 1
  let ds := digits number
  ⟨dropZeros ds, (ds.length : Int) + k⟩

end Decimal
end ScopedSql
