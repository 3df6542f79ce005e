import ScopedSql.Text.Blank

namespace ScopedSql
namespace Domain
namespace Punycode

/-!
# Texts of other scripts in small letters, digits and hyphens

A text is written as its ASCII characters, a hyphen if there are any, and then a
number for every other character.  These characters are put in by ascending
number, and by place where the number is the same.  There are as many places as
the text so far has characters, and one more, and a step goes to the next place,
or from the last place to the first one of the next character.  What is
written for a character is how many steps it is passed over from the one before.

A number is a row of digits to the base 36, lowest first.  A digit below the
threshold of its place is the last one, so numbers need no marks between them.
The thresholds depend on a bias, which follows the size of the numbers before.
-/

/-! ## Numbers -/

/-- The digits in the order of their values. -/
def digits : List Char := "abcdefghijklmnopqrstuvwxyz0123456789".toList

def digit? (c : Char) : Option Nat := digits.idxOf? c

/-- The least digit that does not end a number; places count in steps of 36. -/
def threshold (bias place : Nat) : Nat := min 26 (max 1 (place - bias))

/-- A threshold leaves digits on both sides of it. -/
theorem threshold_bounds (bias place : Nat) :
    1 ≤ threshold bias place ∧ threshold bias place ≤ 26 := by
  unfold threshold
  omega

def firstBias : Nat := 72

/-- The bias that suits numbers of a size. -/
def biasFor (size : Nat) : Nat :=
  if size ≤ 455 then 36 * size / (size + 38) else 36 + biasFor (size / 35)
termination_by size
decreasing_by omega

/-- The bias after a number, by which the text came to have a count of
characters.  The first number is much greater than those that follow. -/
def nextBias (number count : Nat) (first : Bool) : Nat :=
  let size := number / (if first then 700 else 2)
  biasFor (size + size / count)

/-- Write a number from a place on. -/
def writeNumber (bias place number : Nat) : List Char :=
  let least := threshold bias place
  if number < least then [digits.getD number 'a']
  else
    digits.getD (least + (number - least) % (36 - least)) 'a' ::
      writeNumber bias (place + 36) ((number - least) / (36 - least))
termination_by number
decreasing_by
  have bounds := threshold_bounds bias place
  have smaller := Nat.div_le_self (number - threshold bias place) (36 - threshold bias place)
  omega

/-! ## Writing -/

/-- What is written so far: the count of characters that are in the text, the
steps since the last one, the bias, and the digits. -/
structure Written where
  count : Nat
  steps : Nat
  bias : Nat
  digits : List Char

/-- Pass by one character of the text when the characters of a number are put in. -/
def passBy (ascii number : Nat) (written : Written) (c : Char) : Written :=
  if c.toNat < number then { written with steps := written.steps + 1 }
  else if c.toNat = number then
    { count := written.count + 1, steps := 0
      bias := nextBias written.steps (written.count + 1) (written.count = ascii)
      digits := written.digits ++ writeNumber written.bias 36 written.steps }
  else written

/-- Put in the characters of the numbers, in ascending order; all below `start` are in. -/
def writeFrom (text : List Char) (ascii start : Nat) (written : Written) :
    List Nat -> List Char
  | [] => written.digits
  | number :: numbers =>
    let steps := written.steps + (number - start) * (written.count + 1)
    let written := text.foldl (passBy ascii number) { written with steps }
    writeFrom text ascii (number + 1) { written with steps := written.steps + 1 } numbers

def isAscii (c : Char) : Bool := c.toNat < 0x80

def encode (text : List Char) : List Char :=
  let ascii := text.filter isAscii
  let numbers := ((text.filter (fun c => !isAscii c)).map Char.toNat).mergeSort.eraseDups
  ascii ++ (if ascii.isEmpty then [] else ['-']) ++
    writeFrom text ascii.length 0x80
      { count := ascii.length, steps := 0, bias := firstBias, digits := [] } numbers

/-! ## Reading -/

/-- What is read so far: the text, the number of the character that is put in
next and its place, the bias and whether no number has been read; and of the
number that is being read the place, the weight of its next digit, and the sum. -/
structure Read where
  text : List Char
  number : Nat
  position : Nat
  bias : Nat
  first : Bool
  place : Nat
  weight : Nat
  sum : Nat

def character? (number : Nat) : Option Char :=
  if number.isValidChar then some (Char.ofNat number) else none

def Read.putIn (read : Read) (steps : Nat) : Option Read := do
  let count := read.text.length + 1
  let number := read.number + (read.position + steps) / count
  let position := (read.position + steps) % count
  return { text := read.text.take position ++ (<- character? number) :: read.text.drop position
           number, position := position + 1, bias := nextBias steps count read.first
           first := false, place := 36, weight := 1, sum := 0 }

/-- Read digits; no number may be unfinished at the end. -/
def readFrom (read : Read) : List Char -> Option (List Char)
  | [] => if read.place = 36 then some read.text else none
  | c :: rest => do
    let value <- digit? c
    let least := threshold read.bias read.place
    let sum := read.sum + value * read.weight
    if value < least then readFrom (<- read.putIn sum) rest
    else
      readFrom { read with sum, place := read.place + 36, weight := read.weight * (36 - least) }
        rest

/-- Read a text.  The ASCII characters end at the last hyphen. -/
def decode? (cs : List Char) : Option (List Char) :=
  let (text, rest) :=
    match Text.splitAtLast? '-' cs with
    | some (first :: before, after) => (first :: before, after)
    | _ => ([], cs)
  if text.all isAscii then
    readFrom { text, number := 0x80, position := 0, bias := firstBias, first := true
               place := 36, weight := 1, sum := 0 } rest
  else none

end Punycode
end Domain
end ScopedSql
