import ScopedSql.Name.Check
import ScopedSql.Sql.Quote
import ScopedSql.Text.Blank

namespace ScopedSql

/-!
# Where a session stands

A scope names a database, a branch, both or neither.  The database is always
selected before the branch is checked out, whichever was named first, because a
checkout looks for the branch in the current database.  All names are checked
before any statement is made from them.
-/

/-- One statement that moves a session. -/
inductive Step
  | useDatabase (name : String)
  | checkoutBranch (name : String)
  deriving DecidableEq, Repr

/-- The statement of a step, if its name has the right shape. -/
def Step.sql : Step -> Except Error String
  | .useDatabase name =>
    (Name.check .database name).map (fun name => "USE " ++ Sql.quoteIdentifier name ++ ";")
  | .checkoutBranch name =>
    (Name.check .branch name).map (fun name => Sql.callProcedure "DOLT_CHECKOUT" [name])

/-- The database and the branch on which a session is put. -/
structure Scope where
  database? : Option String
  branch? : Option String
  deriving DecidableEq, Repr

namespace Scope

/-- Neither database nor branch: the session stays where the server puts it. -/
def plain : Scope := ⟨none, none⟩

def withDatabase (scope : Scope) (name : String) : Scope :=
  { scope with database? := some name }

def withBranch (scope : Scope) (name : String) : Scope :=
  { scope with branch? := some name }

/-- A database and nothing else. -/
def onDatabase (database : String) : Scope := plain.withDatabase database

/-- A branch of the database that the server selects. -/
def onBranch (branch : String) : Scope := plain.withBranch branch

/-- A branch of a database. -/
def onDatabaseBranch (database branch : String) : Scope :=
  (onDatabase database).withBranch branch

/-- The step for the database.  A blank name is none at all, which is a fault of its own. -/
def databaseStep (scope : Scope) : Except Error (List Step) :=
  match scope.database? with
  | none => .ok []
  | some name =>
    if Text.blank name then .error .noDatabase
    else (Name.check .database name).map (fun name => [.useDatabase name])

def branchStep (scope : Scope) : Except Error (List Step) :=
  match scope.branch? with
  | none => .ok []
  | some name => (Name.check .branch name).map (fun name => [.checkoutBranch name])

/-- The steps of a scope in the order in which they are run. -/
def steps (scope : Scope) : Except Error (List Step) := do
  return (<- scope.databaseStep) ++ (<- scope.branchStep)

def statements (scope : Scope) : Except Error (List String) := do
  (<- scope.steps).mapM Step.sql

end Scope
end ScopedSql
