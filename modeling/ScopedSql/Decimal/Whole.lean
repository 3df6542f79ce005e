namespace ScopedSql
namespace Decimal

/-!
# Whole numbers in decimal

Writing uses the fewest digits, with a minus sign for a negative number.
Reading takes an optional sign and at least one digit, allows leading zeros,
and fails at the first character that shows the failure: a character that is
no digit, or a digit that carries the number over the largest one allowed.
-/

/-- Why a text is no number of the wanted range. -/
inductive WholeFault
  | empty
  | invalidDigit
  | tooLarge
  | tooSmall
  deriving DecidableEq, Repr

def WholeFault.message : WholeFault -> String
  | .empty => "cannot parse integer from empty string"
  | .invalidDigit => "invalid digit found in string"
  | .tooLarge => "number too large to fit in target type"
  | .tooSmall => "number too small to fit in target type"

def digit? (c : Char) : Option Nat :=
  if c.isDigit then some (c.toNat - '0'.toNat) else none

/-- Read digits onto a number already read, up to a largest value; `excess` is
the failure beyond it. -/
def readDigits (largest : Nat) (excess : WholeFault) : Nat -> List Char -> Except WholeFault Nat
  | number, [] => .ok number
  | number, c :: rest =>
    match digit? c with
    | none => .error .invalidDigit
    | some d =>
      if number * 10 + d ≤ largest then readDigits largest excess (number * 10 + d) rest
      else .error excess

/-- Read at least one digit. -/
def readSome (largest : Nat) (excess : WholeFault) : List Char -> Except WholeFault Nat
  | [] => .error .invalidDigit
  | digits => readDigits largest excess 0 digits

/-- Read a number from zero to a largest value; a plus sign may precede it, a minus sign may not. -/
def readNat (largest : Nat) : List Char -> Except WholeFault Nat
  | [] => .error .empty
  | '+' :: digits => readSome largest .tooLarge digits
  | digits => readDigits largest .tooLarge 0 digits

/-- Read a number from `- bound` up to, and not including, `bound`. -/
def readInt (bound : Nat) : List Char -> Except WholeFault Int
  | [] => .error .empty
  | '+' :: digits => (readSome (bound - 1) .tooLarge digits).map Int.ofNat
  | '-' :: digits => (readSome bound .tooSmall digits).map (fun n => - Int.ofNat n)
  | digits => (readDigits (bound - 1) .tooLarge 0 digits).map Int.ofNat

def digits (n : Nat) : List Char :=
  Nat.toDigits 10 n

/-- The decimal text of a number, with a minus sign if it is negative. -/
def text : Int -> List Char
  | .ofNat n => digits n
  | .negSucc n => '-' :: digits (n + 1)

/-- A number written with zeros in front, to a least width. -/
def padded (width n : Nat) : List Char :=
  List.replicate (width - (digits n).length) '0' ++ digits n

end Decimal
end ScopedSql
