namespace ScopedSql
namespace Text

/-!
# Characters in bytes

Decoding UTF-8 either refuses bytes that are no UTF-8 or puts the replacement
character in their place, one for each longest run of bytes that starts a
character and is not carried to its end, and one for each byte that starts none.
-/

def replacement : Char := '\ufffd'

/-- What the first byte of a character says: how many bytes follow, the range
of the next one, and the bits of the character it carries. -/
def leadByte? (b : Nat) : Option (Nat × Nat × Nat × Nat) :=
  if b < 0x80 then some (0, 0, 0, b)
  else if 0xC2 ≤ b ∧ b ≤ 0xDF then some (1, 0x80, 0xBF, b - 0xC0)
  else if b = 0xE0 then some (2, 0xA0, 0xBF, 0)
  else if b = 0xED then some (2, 0x80, 0x9F, 0x0D)
  else if 0xE1 ≤ b ∧ b ≤ 0xEF then some (2, 0x80, 0xBF, b - 0xE0)
  else if b = 0xF0 then some (3, 0x90, 0xBF, 0)
  else if 0xF1 ≤ b ∧ b ≤ 0xF3 then some (3, 0x80, 0xBF, b - 0xF0)
  else if b = 0xF4 then some (3, 0x80, 0x8F, 4)
  else none

/-- Decode bytes; `owed` bytes of a character begun are still to come, the next
of them between `low` and `high`, and `bits` are those it has so far.  A
character that is not or never completed is `none`. -/
def decodeFrom (owed low high bits : Nat) : List UInt8 -> List (Option Char)
  | [] => if owed = 0 then [] else [none]
  | byte :: rest =>
    let b := byte.toNat
    if owed ≠ 0 ∧ low ≤ b ∧ b ≤ high then
      let bits := bits * 64 + (b - 0x80)
      if owed = 1 then some (Char.ofNat bits) :: decodeFrom 0 0 0 0 rest
      else decodeFrom (owed - 1) 0x80 0xBF bits rest
    else
      (if owed = 0 then [] else [none]) ++
        match leadByte? b with
        | none => none :: decodeFrom 0 0 0 0 rest
        | some (0, _, _, bits) => some (Char.ofNat bits) :: decodeFrom 0 0 0 0 rest
        | some (more, low, high, bits) => decodeFrom more low high bits rest

/-- The characters of bytes, `none` for every run of bytes that is no character. -/
def decode (bytes : List UInt8) : List (Option Char) :=
  decodeFrom 0 0 0 0 bytes

/-- The text of bytes, with a replacement for what is no character. -/
def lossy (bytes : List UInt8) : String :=
  String.ofList ((decode bytes).map (fun c => c.getD replacement))

/-- The text of bytes that are UTF-8 throughout. -/
def strict? (bytes : List UInt8) : Option String :=
  ((decode bytes).mapM id).map String.ofList

def encode (s : String) : List UInt8 :=
  s.toUTF8.toList

end Text
end ScopedSql
