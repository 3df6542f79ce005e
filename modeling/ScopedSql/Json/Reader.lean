import ScopedSql.Json.Basic
import ScopedSql.Json.Lexeme

namespace ScopedSql
namespace Json

/-!
# Reading JSON

A text is one value with white space around it.  Lists and objects may be
nested up to a limit; of fields with one name the last one counts.  A whole
number outside the 64-bit range, and zero with a minus sign, become doubles.
-/

def nestingLimit : Nat := 127

def numberOf (lexeme : NumberLexeme) : Option JsonNumber :=
  match lexeme.whole? with
  | some z =>
    if (!lexeme.negative && z ≤ largestWord) || (z < 0 && -(Nat.pow 2 63 : Int) ≤ z) then
      some (.whole z)
    else lexeme.real?.map .real
  | none => lexeme.real?.map .real

def readScalar (cs : List Char) : Option (Json × List Char) :=
  match cs with
  | 'n' :: 'u' :: 'l' :: 'l' :: rest => some (.null, rest)
  | 't' :: 'r' :: 'u' :: 'e' :: rest => some (.bool true, rest)
  | 'f' :: 'a' :: 'l' :: 's' :: 'e' :: rest => some (.bool false, rest)
  | '"' :: rest => (readString rest).map (fun read => (.text (String.ofList read.1), read.2))
  | cs => do
    let (lexeme, rest) <- readNumber cs
    let n <- numberOf lexeme
    return (.number n, rest)

/-- Read one or more entries with commas between them, up to a closing character. -/
def readEntries {α : Type} (close : Char) (entry : List Char -> Option (α × List Char)) :
    Nat -> List Char -> Option (List α × List Char)
  | 0, _ => none
  | fuel + 1, cs => do
    let (first, rest) <- entry cs
    match skipSpace rest with
    | [] => none
    | c :: rest =>
      if c = close then return ([first], rest)
      else if c = ',' then
        let (entries, rest) <- readEntries close entry fuel rest
        return (first :: entries, rest)
      else none

/-- Read entries after an opening bracket; there may be none. -/
def readAll {α : Type} (close : Char) (entry : List Char -> Option (α × List Char))
    (cs : List Char) : Option (List α × List Char) :=
  match skipSpace cs with
  | [] => none
  | c :: rest =>
    if c = close then some ([], rest) else readEntries close entry (rest.length + 1) (c :: rest)

def readName (cs : List Char) : Option (String × List Char) :=
  match skipSpace cs with
  | '"' :: rest =>
    match readString rest with
    | none => none
    | some (name, rest) =>
      match skipSpace rest with
      | ':' :: rest => some (String.ofList name, rest)
      | _ => none
  | _ => none

def readField {α : Type} (value : List Char -> Option (α × List Char)) (cs : List Char) :
    Option ((String × α) × List Char) := do
  let (name, rest) <- readName cs
  let (found, rest) <- value rest
  return ((name, found), rest)

/-- Read a value whose lists and objects are nested no deeper than a limit. -/
def readValue : Nat -> List Char -> Option (Json × List Char)
  | 0, cs => readScalar (skipSpace cs)
  | depth + 1, cs =>
    match skipSpace cs with
    | '[' :: rest =>
      (readAll ']' (readValue depth) rest).map (fun read => (.list read.1, read.2))
    | '\x7b' :: rest =>
      (readAll '\x7d' (readField (readValue depth)) rest).map
        (fun read => (.object (sortFields read.1), read.2))
    | cs => readScalar cs

/-- Read a text that holds one value and nothing else. -/
def read (text : String) : Option Json :=
  match readValue nestingLimit text.toList with
  | none => none
  | some (value, rest) => if (skipSpace rest).isEmpty then some value else none

end Json
end ScopedSql
