import ScopedSql.Text.Hex
import ScopedSql.Text.Utf8

namespace ScopedSql
namespace Percent

/-!
# Percent signs in addresses

A percent sign with two hexadecimal digits stands for one byte.  A percent sign
without them stands for itself.
-/

def asChar (b : UInt8) : Char := Char.ofNat b.toNat

/-- The bytes that a text with percent signs stands for. -/
def decodeBytes : List UInt8 -> List UInt8
  | 0x25 :: a :: b :: rest =>
    match Text.hexPair? (asChar a) (asChar b) with
    | some byte => byte :: decodeBytes rest
    | none => 0x25 :: decodeBytes (a :: b :: rest)
  | byte :: rest => byte :: decodeBytes rest
  | [] => []

/-- The bytes behind characters. -/
def bytesOf (cs : List Char) : List UInt8 :=
  decodeBytes (Text.encode (String.ofList cs))

def decode? (cs : List Char) : Option String :=
  Text.strict? (bytesOf cs)

/-- The text behind characters, with a replacement for bytes that spell nothing. -/
def decodeLossy (cs : List Char) : String :=
  Text.lossy (bytesOf cs)

def ofByte (b : UInt8) : List Char :=
  ['%', (Nat.digitChar (b.toNat / 16)).toUpper, (Nat.digitChar (b.toNat % 16)).toUpper]

/-- Characters with percent signs for all that is not printable ASCII. -/
def encode (cs : List Char) : List Char :=
  cs.flatMap (fun c =>
    if 0x20 ≤ c.toNat ∧ c.toNat < 0x7F then [c]
    else (Text.encode (String.ofList [c])).flatMap ofByte)

end Percent
end ScopedSql
