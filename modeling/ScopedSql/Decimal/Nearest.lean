import ScopedSql.Decimal.Whole

namespace ScopedSql
namespace Decimal

/-!
# The double nearest to a decimal number

A positive rational is scaled by a power of two until its whole part has 53
bits, or as many as the least exponent leaves; then it is rounded to the nearer
whole number, and to the even one of two equally near.  The rounded number and
the exponent, put side by side, are the bits of the result, because a carry out
of the 53 bits is exactly a step to the next exponent.

The arithmetic is exact throughout.  Only the last step builds a `Float`.
-/

def infinityBits : Nat := 0x7FF0000000000000

/-- The quotient rounded to the nearest whole number, a half to the even one. -/
def roundHalfEven (num den : Nat) : Nat :=
  let whole := num / den
  let twice := 2 * (num % den)
  if den < twice ∨ (twice = den ∧ whole % 2 = 1) then whole + 1 else whole

/-- The quotient of `num` by `den * 2 ^ q`, for any sign of `q`. -/
def scaleByPower (num den : Nat) (q : Int) : Nat × Nat :=
  if 0 ≤ q then (num, den * Nat.pow 2 q.toNat) else (num * Nat.pow 2 (-q).toNat, den)

/-- The exponent of the last of 53 bits of a quotient, no less than the least one. -/
def lastBitExponent (num den : Nat) : Int :=
  let guess : Int := (num.log2 : Int) - (den.log2 : Int) - 52
  let scaled := scaleByPower num den guess
  max (if scaled.1 / scaled.2 < Nat.pow 2 52 then guess - 1 else guess) (-1074)

/-- The bits of the double nearest to a quotient of positive numbers. -/
def nearestBits (num den : Nat) : Nat :=
  if num = 0 then 0
  else
    let q := lastBitExponent num den
    let scaled := scaleByPower num den q
    min infinityBits ((q + 1074).toNat * Nat.pow 2 52 + roundHalfEven scaled.1 scaled.2)

/-- The double nearest to `number * 10 ^ exponent`.  Numbers far outside the
range of doubles are settled by their size alone. -/
def nearest (number : Nat) (exponent : Int) : Float :=
  let size : Int := (digits number).length + exponent
  let bits :=
    if number = 0 ∨ size < -400 then 0
    else if 400 < size then infinityBits
    else if 0 ≤ exponent then nearestBits (number * Nat.pow 10 exponent.toNat) 1
    else nearestBits number (Nat.pow 10 (-exponent).toNat)
  Float.ofBits bits.toUInt64

def notANumber : Float := Float.ofBits 0x7FF8000000000000

/-- The number that a list of digits spells. -/
def ofDigits (ds : List Char) : Nat :=
  ds.foldl (fun number c => number * 10 + (c.toNat - '0'.toNat)) 0

/-- The exponent after a decimal number: nothing, or a letter `e` with a signed number. -/
def readExponent : List Char -> Option Int
  | [] => some 0
  | mark :: rest =>
    if mark = 'e' ∨ mark = 'E' then
      let (negative, ds) := match rest with
        | '-' :: ds => (true, ds)
        | '+' :: ds => (false, ds)
        | ds => (false, ds)
      if ds.isEmpty ∨ !ds.all Char.isDigit then none
      else some (if negative then - (ofDigits ds : Int) else ofDigits ds)
    else none

/-- A decimal number without sign: digits with at most one point among them,
at least one digit, and perhaps an exponent. -/
def readMagnitude (cs : List Char) : Option Float :=
  let whole := cs.takeWhile Char.isDigit
  let afterWhole := cs.dropWhile Char.isDigit
  let (fraction, afterFraction) := match afterWhole with
    | '.' :: rest => (rest.takeWhile Char.isDigit, rest.dropWhile Char.isDigit)
    | rest => ([], rest)
  if whole.isEmpty ∧ fraction.isEmpty then none
  else
    (readExponent afterFraction).map (fun exponent =>
      nearest (ofDigits (whole ++ fraction)) (exponent - fraction.length))

/-- A number without sign, or one of the words for infinity and for no number. -/
def readUnsigned (cs : List Char) : Option Float :=
  let word := String.ofList (cs.map Char.toLower)
  if word = "inf" ∨ word = "infinity" then some (Float.ofBits infinityBits.toUInt64)
  else if word = "nan" then some notANumber
  else readMagnitude cs

def readFloat : List Char -> Option Float
  | '-' :: rest => (readUnsigned rest).map (fun x => -x)
  | '+' :: rest => readUnsigned rest
  | cs => readUnsigned cs

end Decimal
end ScopedSql
