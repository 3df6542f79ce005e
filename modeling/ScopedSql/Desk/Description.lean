import ScopedSql.Desk.Basic
import ScopedSql.Text.Quoted

namespace ScopedSql

/-!
# Descriptions for logs

A description names the state and the scope of a transaction, or the target of a
pool.  It leaves out everything that belongs to a session.
-/

def describeOptional : Option String -> String
  | none => "None"
  | some name => "Some(" ++ Text.quoted name ++ ")"

def Scope.describe (scope : Scope) : String :=
  "Scope \x7b database: " ++ describeOptional scope.database? ++ ", branch: " ++
    describeOptional scope.branch? ++ " \x7d"

def Transaction.describe {κ : Type} (tx : Transaction κ) : String :=
  "ScopedTransaction \x7b state: " ++ tx.stateWord ++ ", scope: " ++ tx.scope.describe ++
    ", .. \x7d"

def Pool.describe (pool : Pool) : String :=
  "Database \x7b target: " ++ Text.quoted pool.connector.name ++ ", .. \x7d"

end ScopedSql
