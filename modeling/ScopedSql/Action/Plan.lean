import ScopedSql.Action.Basic
import ScopedSql.Arguments
import ScopedSql.Scope
import ScopedSql.Sql.Classifier

namespace ScopedSql

/-!
# What an action will do

Everything that an action does is settled from its arguments before any session
is opened: one statement, the scope on which it runs, whether its work is kept,
and the text that answers it.  An argument that is missing or malformed, a name
of the wrong shape, and a statement of the wrong kind are found here, in a fixed
order for every action.
-/

/-- What an action will do. -/
inductive Plan
  /-- Read on a session of the pool. -/
  | pooled (sql : String) (format : Format)
  /-- Read in a transaction that is rolled back. -/
  | read (scope : Scope) (sql : String) (format : Format)
  /-- Write in a transaction that is committed, and report. -/
  | write (scope : Scope) (sql report : String)
  deriving DecidableEq, Repr

namespace Action

def databaseArgument : String := "database"

def branchArgument : String := "branch"

def tableArgument : String := "table"

def databaseScope (arguments : Arguments) : Except Error Scope := do
  return Scope.onDatabase (<- arguments.text databaseArgument)

/-- The scope of a database and a branch, both required. -/
def branchScope (arguments : Arguments) : Except Error Scope := do
  let scope <- databaseScope arguments
  return scope.withBranch (<- arguments.text branchArgument)

/-- The scope of a database, and of a branch if one is given. -/
def looseScope (arguments : Arguments) : Except Error Scope := do
  let scope <- databaseScope arguments
  match <- arguments.text? branchArgument with
  | some branch => return scope.withBranch branch
  | none => return scope

def checkedName (arguments : Arguments) (argument : String) (kind : Name.Kind) :
    Except Error String := do
  Name.check kind (<- arguments.text argument)

def readPlan (scope : Except Error Scope) (sql : String) (arguments : Arguments) :
    Except Error Plan := do
  return .read (<- scope) sql (<- arguments.format)

/-- The statement that a caller brings, if it is of the expected kind. -/
def callerStatement (classify : Sql.Classifier) (arguments : Arguments)
    (expected : Sql.StatementKind) : Except Error String := do
  let sql <- arguments.text Sql.statementArgument
  classify.expect expected sql
  return sql

def createBranchPlan (arguments : Arguments) : Except Error Plan := do
  let scope <- databaseScope arguments
  let branch <- checkedName arguments "new_branch" .branch
  let source <- arguments.text? "original_branch"
  let force <- arguments.flag "force"
  let copied <- source.mapM (Name.check .branch)
  let call := Sql.callProcedure "DOLT_BRANCH"
    ((if force then ["-f"] else []) ++ ((copied.map (fun name => ["-c", name])).getD []) ++
      [branch])
  return .write scope call ("successfully created branch: " ++ branch)

def deleteBranchPlan (arguments : Arguments) : Except Error Plan := do
  let scope <- databaseScope arguments
  let branch <- checkedName arguments branchArgument .branch
  let option := if (<- arguments.flag "force") then "-D" else "-d"
  return .write scope (Sql.callProcedure "DOLT_BRANCH" [option, branch])
    ("successfully deleted branch: " ++ branch)

/-- A merge runs on the branch that it changes. -/
def mergeBranchPlan (arguments : Arguments) : Except Error Plan := do
  let source <- arguments.text "source_branch"
  let destination <- arguments.text "destination_branch"
  let source <- Name.check .branch source
  let scope <- databaseScope arguments
  return .write (scope.withBranch destination) (Sql.callProcedure "DOLT_MERGE" [source])
    ("successfully merged " ++ source ++ " into " ++ destination)

/-- A commit takes its message as it is. -/
def createCommitPlan (arguments : Arguments) : Except Error Plan := do
  let scope <- branchScope arguments
  let message <- arguments.text "message"
  let option := if (<- arguments.flag "add_all") then "-Am" else "-m"
  return .write scope (Sql.callProcedure "DOLT_COMMIT" [option, message])
    "successfully committed changes"

def resetHardPlan (arguments : Arguments) : Except Error Plan := do
  let scope <- branchScope arguments
  let revision <- (<- arguments.text? "revision").mapM (Name.check .revision)
  return .write scope (Sql.callProcedure "DOLT_RESET" ("--hard" :: revision.toList))
    "successfully reset working set"

def tableChangesPlan (arguments : Arguments) : Except Error Plan := do
  let scope <- branchScope arguments
  let table <- arguments.text tableArgument
  let first := (<- arguments.text? "from_revision").getD "HEAD"
  let last := (<- arguments.text? "to_revision").getD "WORKING"
  let first <- Name.check .revision first
  let last <- Name.check .revision last
  let table <- Name.check .table table
  let quoted := [first, last, table].map Sql.quoteLiteral
  return .read scope ("SELECT * FROM DOLT_DIFF(" ++ String.intercalate ", " quoted ++ ");")
    (<- arguments.format)

def tablePlan (procedure done : String) (arguments : Arguments) : Except Error Plan := do
  let scope <- branchScope arguments
  let table <- checkedName arguments tableArgument .table
  return .write scope (Sql.callProcedure procedure [table])
    ("successfully " ++ done ++ " table: " ++ table)

def allTablesPlan (procedure : String) (options : List String) (done : String)
    (arguments : Arguments) : Except Error Plan := do
  let scope <- branchScope arguments
  return .write scope (Sql.callProcedure procedure options)
    ("successfully " ++ done ++ " all tables")

def databasePlan (verb done : String) (arguments : Arguments) : Except Error Plan := do
  let name <- checkedName arguments databaseArgument .database
  return .write Scope.plain (verb ++ " DATABASE " ++ Sql.quoteIdentifier name ++ ";")
    ("successfully " ++ done ++ " database: " ++ name)

def plan (classify : Sql.Classifier) (arguments : Arguments) : Action -> Except Error Plan
  | .query => do
    let scope <- looseScope arguments
    let sql <- callerStatement classify arguments .read
    return .read scope sql (<- arguments.format)
  | .exec => do
    let scope <- looseScope arguments
    let sql <- callerStatement classify arguments .write
    return .write scope sql "successfully executed write"
  | .listDatabases => do return .pooled "SHOW DATABASES;" (<- arguments.format)
  | .createDatabase => databasePlan "CREATE" "created" arguments
  | .dropDatabase => databasePlan "DROP" "dropped" arguments
  | .selectActiveBranch =>
    readPlan (databaseScope arguments) "SELECT active_branch();" arguments
  | .listBranches =>
    readPlan (databaseScope arguments) "SELECT * FROM dolt_branches;" arguments
  | .createBranch => createBranchPlan arguments
  | .deleteBranch => deleteBranchPlan arguments
  | .mergeBranch => mergeBranchPlan arguments
  | .listCommits => readPlan (branchScope arguments) "SELECT * FROM dolt_log;" arguments
  | .createCommit => createCommitPlan arguments
  | .resetHard => resetHardPlan arguments
  | .listWorkingSetChanges =>
    readPlan (branchScope arguments) "SELECT * FROM dolt_status;" arguments
  | .listTableChanges => tableChangesPlan arguments
  | .stageTable => tablePlan "DOLT_ADD" "staged" arguments
  | .stageAllTables => allTablesPlan "DOLT_ADD" ["-A"] "staged" arguments
  | .unstageTable => tablePlan "DOLT_RESET" "unstaged" arguments
  | .unstageAllTables => allTablesPlan "DOLT_RESET" [] "unstaged" arguments
  | .showTables => readPlan (looseScope arguments) "SHOW TABLES;" arguments
  | .describeTable => do
    let scope <- looseScope arguments
    let table <- checkedName arguments tableArgument .table
    return .read scope ("DESCRIBE " ++ Sql.quoteIdentifier table ++ ";") (<- arguments.format)

end Action
end ScopedSql
