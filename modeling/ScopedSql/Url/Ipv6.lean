import ScopedSql.Decimal.Whole
import ScopedSql.Text.Blank
import ScopedSql.Text.Hex

namespace ScopedSql
namespace Ipv6

/-!
# Internet addresses in brackets

An address is eight numbers of 16 bits.  It is read as groups of up to four
hexadecimal digits with colons between them.  One pair of colons may stand for
one or more groups of zero, and the last two numbers may be written as four
decimal numbers with points between them.  It is written with the first of the
longest runs of at least two zeros as a pair of colons.
-/

/-! ## Reading -/

def readGroup (cs : List Char) : Option Nat := do
  if cs.isEmpty || 4 < cs.length then none
  let ds <- cs.mapM Text.hexDigit?
  return ds.foldl (fun n d => n * 16 + d) 0

/-- A decimal number of one byte, without needless zeros. -/
def readByte (cs : List Char) : Option Nat :=
  if cs.head? = some '0' ∧ cs ≠ ['0'] ∨ !cs.all Char.isDigit then none
  else
    match Decimal.readNat 255 cs with
    | .ok n => some n
    | .error _ => none

/-- The last group, which may be four decimal numbers that make two groups. -/
def readLastGroup (cs : List Char) : Option (List Nat) :=
  match (Text.splitOn '.' cs).map readByte with
  | [some a, some b, some c, some d] => some [a * 256 + b, c * 256 + d]
  | _ => (readGroup cs).map (fun n => [n])

/-- Groups with colons between them, all hexadecimal. -/
def readGroups (cs : List Char) : Option (List Nat) :=
  if cs.isEmpty then some [] else (Text.splitOn ':' cs).mapM readGroup

/-- Groups of which the last may be decimal. -/
def readLastGroups (cs : List Char) : Option (List Nat) :=
  if cs.isEmpty then some []
  else
    let groups := Text.splitOn ':' cs
    match groups.dropLast.mapM readGroup, readLastGroup (groups.getLast?.getD []) with
    | some first, some last => some (first ++ last)
    | _, _ => none

/-- The characters before and after the first pair of colons. -/
def splitAtPair : List Char -> Option (List Char × List Char)
  | [] => none
  | ':' :: ':' :: rest => some ([], rest)
  | c :: rest => (splitAtPair rest).map (fun parts => (c :: parts.1, parts.2))

def read (cs : List Char) : Option (List Nat) :=
  match splitAtPair cs with
  | none => do
    let groups <- readLastGroups cs
    if groups.length = 8 then some groups else none
  | some (before, after) => do
    let first <- readGroups before
    let last <- readLastGroups after
    if first.length + last.length < 8 then
      some (first ++ List.replicate (8 - first.length - last.length) 0 ++ last)
    else none

/-! ## Writing -/

def leadingZeros (groups : List Nat) : Nat :=
  (groups.takeWhile (fun n => n = 0)).length

/-- The place and the length of the first of the longest runs of zeros. -/
def longestRun : Nat -> List Nat -> Nat × Nat
  | _, [] => (0, 0)
  | place, group :: groups =>
    let here := leadingZeros (group :: groups)
    let later := longestRun (place + 1) groups
    if later.2 ≤ here then (place, here) else later

def joined (groups : List Nat) : List Char :=
  [':'].intercalate (groups.map Text.hexDigits)

def write (groups : List Nat) : List Char :=
  let (place, count) := longestRun 0 groups
  if count < 2 then joined groups
  else joined (groups.take place) ++ [':', ':'] ++ joined (groups.drop (place + count))

end Ipv6
end ScopedSql
