namespace ScopedSql
namespace Sql

/-!
# Quoting for statement texts

An identifier stands between backticks, with every backtick in it written
twice.  A string literal stands between apostrophes, with every apostrophe and
every backslash written twice and NUL as a backslash and a zero.
-/

/-- One character inside a quoted identifier. -/
def identifierChar (c : Char) : List Char :=
  if c = '\x60' then [c, c] else [c]

/-- A name as a quoted identifier. -/
def quoteIdentifier (name : String) : String :=
  String.ofList ('\x60' :: name.toList.flatMap identifierChar ++ ['\x60'])

/-- Writing every character once changes nothing. -/
theorem flatMap_of_single {write : Char -> List Char} {cs : List Char}
    (single : forall c, c ∈ cs -> write c = [c]) : cs.flatMap write = cs := by
  induction cs with
  | nil => rfl
  | cons c rest inductionHypothesis =>
      rw [List.flatMap_cons, single c List.mem_cons_self,
        inductionHypothesis (fun d member => single d (List.mem_cons_of_mem c member)),
        List.singleton_append]

/-- A name without backticks stands between backticks as it is. -/
theorem toList_quoteIdentifier {name : String} (plain : forall c, c ∈ name.toList -> c ≠ '\x60') :
    (quoteIdentifier name).toList = '\x60' :: (name.toList ++ ['\x60']) := by
  have single : forall c, c ∈ name.toList -> identifierChar c = [c] := by
    intro c member
    rw [identifierChar, if_neg (plain c member)]
  rw [quoteIdentifier, String.toList_ofList, flatMap_of_single single, List.cons_append]

/-- One character inside a string literal. -/
def literalChar (c : Char) : List Char :=
  if c = '\\' then ['\\', '\\']
  else if c = '\'' then ['\'', '\'']
  else if c = '\x00' then ['\\', '0']
  else [c]

def quoteLiteral (text : String) : String :=
  String.ofList ('\'' :: text.toList.flatMap literalChar ++ ['\''])

/-- A text without special characters stands between apostrophes as it is. -/
theorem toList_quoteLiteral {text : String}
    (plain : forall c, c ∈ text.toList -> c ≠ '\'' ∧ c ≠ '\\' ∧ c ≠ '\x00') :
    (quoteLiteral text).toList = '\'' :: (text.toList ++ ['\'']) := by
  have single : forall c, c ∈ text.toList -> literalChar c = [c] := by
    intro c member
    obtain ⟨quote, backslash, nul⟩ := plain c member
    rw [literalChar, if_neg backslash, if_neg quote, if_neg nul]
  rw [quoteLiteral, String.toList_ofList, flatMap_of_single single, List.cons_append]

/-- The call of a stored procedure, every argument a string literal. -/
def callProcedure (procedure : String) (arguments : List String) : String :=
  "CALL " ++ procedure ++ "(" ++
    String.intercalate ", " (arguments.map quoteLiteral) ++ ");"

end Sql
end ScopedSql
