import ScopedSql.Error

namespace ScopedSql
namespace Sql

/-!
# Classifiers

A classifier says of a statement whether it reads or writes, or why it cannot
say so.  Callers may bring their own; the standard one looks at the first keyword.
-/

def statementArgument : String := "query"

/-- A judgement on statements. -/
abbrev Classifier := String -> Except Error StatementKind

def Classifier.byKeyword : Classifier := fun sql =>
  match kindByKeyword sql with
  | some kind => .ok kind
  | none => .error (.argument statementArgument .noStatement)

/-- A statement of the expected kind is let through. -/
def Classifier.expect (classify : Classifier) (expected : StatementKind) (sql : String) :
    Except Error Unit := do
  if (<- classify sql) = expected then return ()
  else throw (.unexpectedKind expected sql)

end Sql
end ScopedSql
