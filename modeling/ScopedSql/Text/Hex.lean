namespace ScopedSql
namespace Text

/-!
# Hexadecimal digits

Numbers and bytes in base sixteen.  Digits are read in either case and written small.
-/

def hexDigit? (c : Char) : Option Nat :=
  if c.isDigit then some (c.toNat - '0'.toNat)
  else if 'a' ≤ c ∧ c ≤ 'f' then some (c.toNat - 'a'.toNat + 10)
  else if 'A' ≤ c ∧ c ≤ 'F' then some (c.toNat - 'A'.toNat + 10)
  else none

def hexPair? (a b : Char) : Option UInt8 := do
  return ((<- hexDigit? a) * 16 + (<- hexDigit? b)).toUInt8

/-- The hexadecimal digits of a number, at least one digit. -/
def hexDigits (n : Nat) : List Char :=
  Nat.toDigits 16 n

def hexOfBytes (bytes : List UInt8) : String :=
  String.ofList
    (bytes.flatMap (fun b => [Nat.digitChar (b.toNat / 16), Nat.digitChar (b.toNat % 16)]))

def bytesOfHex? : List Char -> Option (List UInt8)
  | [] => some []
  | [_] => none
  | a :: b :: rest => do
    return (<- hexPair? a b) :: (<- bytesOfHex? rest)

end Text
end ScopedSql
