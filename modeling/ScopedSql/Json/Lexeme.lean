import ScopedSql.Decimal.Nearest
import ScopedSql.Text.Hex

namespace ScopedSql
namespace Json

/-!
# The words of a JSON text

White space, string literals and number literals, each read off the front of a
text.  A string is read in full, escapes included, or only passed over: passing
over checks the shape of the escapes but not that they name characters.
-/

/-- The four characters that JSON counts as white space. -/
def isSpace (c : Char) : Bool :=
  c = ' ' || c = '\n' || c = '\t' || c = '\r'

def skipSpace (cs : List Char) : List Char :=
  cs.dropWhile isSpace

/-! ## Strings -/

def hexFour? (a b c d : Char) : Option Nat := do
  let a <- Text.hexDigit? a
  let b <- Text.hexDigit? b
  let c <- Text.hexDigit? c
  let d <- Text.hexDigit? d
  return ((a * 16 + b) * 16 + c) * 16 + d

/-- The character that a letter after a backslash stands for. -/
def shortEscape? (c : Char) : Option Char :=
  if c = '"' ∨ c = '\\' ∨ c = '/' then some c
  else if c = 'b' then some '\x08'
  else if c = 'f' then some '\x0c'
  else if c = 'n' then some '\n'
  else if c = 'r' then some '\r'
  else if c = 't' then some '\t'
  else none

/-- Is the number the first half of a pair that names one character? -/
def isHighSurrogate (n : Nat) : Bool := 0xD800 ≤ n && n < 0xDC00

/-- Is the number the second half of such a pair? -/
def isLowSurrogate (n : Nat) : Bool := 0xDC00 ≤ n && n < 0xE000

/-- Put a character in front of a string that was read. -/
def prepend (c : Char) : Option (List Char × List Char) -> Option (List Char × List Char)
  | none => none
  | some (content, rest) => some (c :: content, rest)

/-- Read a string after its opening quote: its content, and the text after its
closing quote.  Control characters must be escaped, and half a pair of numbers
names no character. -/
def readString : List Char -> Option (List Char × List Char)
  | [] => none
  | '"' :: rest => some ([], rest)
  | '\\' :: 'u' :: a :: b :: c :: d :: rest =>
    match hexFour? a b c d with
    | none => none
    | some n =>
      if isHighSurrogate n then
        match rest with
        | '\\' :: 'u' :: e :: f :: g :: h :: rest =>
          match hexFour? e f g h with
          | none => none
          | some low =>
            if isLowSurrogate low then
              prepend (Char.ofNat (0x10000 + (n - 0xD800) * 0x400 + (low - 0xDC00)))
                (readString rest)
            else none
        | _ => none
      else if isLowSurrogate n then none
      else prepend (Char.ofNat n) (readString rest)
  | '\\' :: c :: rest =>
    match shortEscape? c with
    | none => none
    | some plain => prepend plain (readString rest)
  | c :: rest => if c.toNat < 0x20 || c = '\\' then none else prepend c (readString rest)

/-- Pass over a string after its opening quote. -/
def skipString : List Char -> Option (List Char)
  | [] => none
  | '"' :: rest => some rest
  | '\\' :: 'u' :: a :: b :: c :: d :: rest =>
    match hexFour? a b c d with
    | none => none
    | some _ => skipString rest
  | '\\' :: c :: rest => if (shortEscape? c).isSome then skipString rest else none
  | c :: rest => if c.toNat < 0x20 || c = '\\' then none else skipString rest

/-! ## Numbers -/

/-- A number as it is written. -/
structure NumberLexeme where
  negative : Bool
  whole : List Char
  fraction : List Char
  exponent : Option Int
  deriving DecidableEq, Repr

/-- The digits after a point, at least one; no point, no digits. -/
def readFraction : List Char -> Option (List Char × List Char)
  | '.' :: rest =>
    if (rest.takeWhile Char.isDigit).isEmpty then none
    else some (rest.takeWhile Char.isDigit, rest.dropWhile Char.isDigit)
  | rest => some ([], rest)

/-- An exponent with an optional sign and at least one digit; none without its mark. -/
def readExponent : List Char -> Option (Option Int × List Char)
  | [] => some (none, [])
  | mark :: rest =>
    if mark = 'e' ∨ mark = 'E' then
      let (negative, ds) := match rest with
        | '-' :: ds => (true, ds)
        | '+' :: ds => (false, ds)
        | ds => (false, ds)
      let taken := ds.takeWhile Char.isDigit
      if taken.isEmpty then none
      else
        let size : Int := Decimal.ofDigits taken
        some (some (if negative then -size else size), ds.dropWhile Char.isDigit)
    else some (none, mark :: rest)

/-- Read a number: a whole part without needless zeros, then perhaps a fraction
and an exponent. -/
def readNumber (cs : List Char) : Option (NumberLexeme × List Char) := do
  let (negative, unsigned) := match cs with
    | '-' :: rest => (true, rest)
    | rest => (false, rest)
  let whole := unsigned.takeWhile Char.isDigit
  if whole.isEmpty then none
  if whole.head? = some '0' ∧ whole ≠ ['0'] then none
  let (fraction, afterFraction) <- readFraction (unsigned.dropWhile Char.isDigit)
  let (exponent, rest) <- readExponent afterFraction
  return ({ negative, whole, fraction, exponent }, rest)

/-- The greatest number of 64 bits. -/
def largestWord : Nat := Nat.pow 2 64 - 1

/-- Take digits onto a number while it fits into 64 bits; the number, and the
digits that were left. -/
def takeFitting : Nat -> List Char -> Nat × List Char
  | taken, [] => (taken, [])
  | taken, c :: rest =>
    let longer := taken * 10 + (c.toNat - '0'.toNat)
    if longer ≤ largestWord then takeFitting longer rest else (taken, c :: rest)

/-- A double times a power of ten, by one multiplication or division with the
nearest double to that power.  A power that no double reaches is divided off in
steps.  A result beyond all doubles is refused. -/
def scaleByTen : Nat -> Float -> Int -> Option Float
  | 0, x, _ => some x
  | fuel + 1, x, exponent =>
    if exponent.natAbs ≤ 308 then
      let power := Decimal.nearest 1 exponent.natAbs
      if 0 ≤ exponent then
        let scaled := x * power
        if scaled.isInf then none else some scaled
      else some (x / power)
    else if x == 0 then some x
    else if 0 ≤ exponent then none
    else scaleByTen fuel (x / Decimal.nearest 1 308) (exponent + 308)

/-- The double for a written number.  Only the leading digits that fit into 64
bits count; the rest move the point. -/
def NumberLexeme.real? (lexeme : NumberLexeme) : Option Float :=
  let (start, dropped) := takeFitting 0 lexeme.whole
  let (taken, unused) := takeFitting start lexeme.fraction
  let used := lexeme.fraction.length - unused.length
  let exponent : Int := dropped.length - used + lexeme.exponent.getD 0
  (scaleByTen 4 (Decimal.nearest taken 0) exponent).map
    (fun x => if lexeme.negative then -x else x)

/-- The whole number that is written, if it has no fraction and no exponent. -/
def NumberLexeme.whole? (lexeme : NumberLexeme) : Option Int :=
  if lexeme.fraction.isEmpty ∧ lexeme.exponent.isNone then
    let size := Decimal.ofDigits lexeme.whole
    some (if lexeme.negative then -(size : Int) else size)
  else none

end Json
end ScopedSql
