import ScopedSql.Decimal.Shortest

namespace ScopedSql
namespace Decimal

/-!
# Writing the digits of a double

A layout says how the shortest digits of a double become text: for which
decimal exponents the number is written out in full, whether a whole number
keeps a zero after its point, and which of two equally near digits is taken.
A number that is not written out has one digit before the point and an exponent
with its sign.
-/

/-- How digits become text.  The decimal exponent is that of the first digit. -/
structure Layout where
  tie : Tie
  /-- Is a number with this decimal exponent written out? -/
  inFull : Int -> Bool
  /-- Does a whole number end in a point and a zero? -/
  pointZero : Bool

/-- Digits without exponent: zeros fill the places up to the point. -/
def Layout.full (layout : Layout) (d : Digits) : List Char :=
  let count : Int := d.ds.length
  if d.point ≤ 0 then
    ['0', '.'] ++ List.replicate (-d.point).toNat '0' ++ d.ds
  else if count ≤ d.point then
    d.ds ++ List.replicate (d.point - count).toNat '0' ++
      (if layout.pointZero then ['.', '0'] else [])
  else
    d.ds.take d.point.toNat ++ ['.'] ++ d.ds.drop d.point.toNat

/-- Digits with an exponent: one digit before the point, the sign always written. -/
def Layout.scientific (d : Digits) : List Char :=
  let exponent := d.point - 1
  let fraction := d.ds.drop 1
  d.ds.take 1 ++ (if fraction.isEmpty then [] else '.' :: fraction) ++ ['e'] ++
    (if exponent < 0 then text exponent else '+' :: text exponent)

/-- The text of a positive finite double, or of zero. -/
def Layout.magnitude (layout : Layout) (bits : Nat) : List Char :=
  let b := Binary.ofBits bits
  if b.m = 0 then '0' :: (if layout.pointZero then ['.', '0'] else [])
  else
    let d := b.shortest layout.tie
    if layout.inFull (d.point - 1) then layout.full d else Layout.scientific d

/-- The text of any double.  Zero keeps its sign; what is no number has none. -/
def Layout.write (layout : Layout) (x : Float) : List Char :=
  let bits := x.toBits.toNat
  let size := bits % Nat.pow 2 63
  let sign := if Nat.pow 2 63 ≤ bits then ['-'] else []
  if 0x7FF0000000000000 < size then ['N', 'a', 'N']
  else if size = 0x7FF0000000000000 then sign ++ ['i', 'n', 'f']
  else sign ++ layout.magnitude size

/-- The plain layout writes every number in full and a whole number without point. -/
def Layout.plain : Layout :=
  { tie := .up, inFull := fun _ => true, pointZero := false }

end Decimal
end ScopedSql
