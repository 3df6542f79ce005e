import ScopedSql.Json.Reader

namespace ScopedSql
namespace Json

/-!
# Passing over JSON

A value that nobody asked for is passed over.  Only its shape matters: numbers
may lie outside every range, strings may name half a pair, and nothing limits
how deeply lists and objects are nested.
-/

def skipScalar (cs : List Char) : Option (List Char) :=
  match cs with
  | 'n' :: 'u' :: 'l' :: 'l' :: rest => some rest
  | 't' :: 'r' :: 'u' :: 'e' :: rest => some rest
  | 'f' :: 'a' :: 'l' :: 's' :: 'e' :: rest => some rest
  | '"' :: rest => skipString rest
  | cs => (readNumber cs).map (fun read => read.2)

def skipName (cs : List Char) : Option (List Char) :=
  match skipSpace cs with
  | '"' :: rest =>
    match (skipString rest).map skipSpace with
    | some (':' :: rest) => some rest
    | _ => none
  | _ => none

/-- Pass over a value.  The fuel bounds the nesting, so the length of the text always suffices. -/
def skipValue : Nat -> List Char -> Option (Unit × List Char)
  | 0, _ => none
  | fuel + 1, cs =>
    match skipSpace cs with
    | '[' :: rest =>
      (readAll ']' (skipValue fuel) rest).map (fun read => ((), read.2))
    | '\x7b' :: rest =>
      (readAll '\x7d' (fun cs => (skipName cs).bind (skipValue fuel)) rest).map
        (fun read => ((), read.2))
    | cs => (skipScalar cs).map (fun rest => ((), rest))

def skip (cs : List Char) : Option (List Char) :=
  (skipValue (cs.length + 1) cs).map (fun read => read.2)

end Json
end ScopedSql
