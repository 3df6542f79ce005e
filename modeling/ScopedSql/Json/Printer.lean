import ScopedSql.Decimal.Layout
import ScopedSql.Json.Basic

namespace ScopedSql
namespace Json

/-!
# Writing JSON

The text has no white space.  A string escapes the quote, the backslash and the
control characters, those with a letter of their own by that letter; all other
characters stand as they are.
-/

/-- Doubles in JSON are written in full from five places behind the point to
sixteen places before it; a whole one keeps its point, so that it stays a double. -/
def realLayout : Decimal.Layout :=
  { tie := .even, inFull := fun exponent => -5 ≤ exponent && exponent < 16, pointZero := true }

def printNumber : JsonNumber -> List Char
  | .whole z => Decimal.text z
  | .real x => realLayout.write x

def hexDigit (n : Nat) : Char := Nat.digitChar n

def escaped (c : Char) : List Char :=
  if c = '"' then ['\\', '"']
  else if c = '\\' then ['\\', '\\']
  else if c = '\x08' then ['\\', 'b']
  else if c = '\x0c' then ['\\', 'f']
  else if c = '\n' then ['\\', 'n']
  else if c = '\r' then ['\\', 'r']
  else if c = '\t' then ['\\', 't']
  else if c.toNat < 0x20 then
    ['\\', 'u', '0', '0', hexDigit (c.toNat / 16), hexDigit (c.toNat % 16)]
  else [c]

def printString (s : String) : List Char :=
  '"' :: s.toList.flatMap escaped ++ ['"']

mutual

def print : Json -> List Char
  | .null => ['n', 'u', 'l', 'l']
  | .bool true => ['t', 'r', 'u', 'e']
  | .bool false => ['f', 'a', 'l', 's', 'e']
  | .number n => printNumber n
  | .text s => printString s
  | .list elements => '[' :: printElements elements ++ [']']
  | .object fields => '\x7b' :: printFields fields ++ ['\x7d']

def printElements : List Json -> List Char
  | [] => []
  | [element] => print element
  | element :: elements => print element ++ ',' :: printElements elements

def printFields : List (String × Json) -> List Char
  | [] => []
  | [(name, value)] => printString name ++ ':' :: print value
  | (name, value) :: fields =>
    printString name ++ ':' :: print value ++ ',' :: printFields fields

end

def compact (value : Json) : String :=
  String.ofList (print value)

end Json
end ScopedSql
