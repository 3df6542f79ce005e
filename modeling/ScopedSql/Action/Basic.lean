namespace ScopedSql

/-!
# Actions

The operations that callers can ask for by name.
-/

/-- An operation on databases, branches, commits or tables. -/
inductive Action
  | query
  | exec
  | listDatabases
  | createDatabase
  | dropDatabase
  | selectActiveBranch
  | listBranches
  | createBranch
  | deleteBranch
  | mergeBranch
  | listCommits
  | createCommit
  | resetHard
  | listWorkingSetChanges
  | listTableChanges
  | stageTable
  | stageAllTables
  | unstageTable
  | unstageAllTables
  | showTables
  | describeTable
  deriving DecidableEq, Repr

namespace Action

def all : List Action :=
  [.query, .exec, .listDatabases, .createDatabase, .dropDatabase, .selectActiveBranch,
    .listBranches, .createBranch, .deleteBranch, .mergeBranch, .listCommits, .createCommit,
    .resetHard, .listWorkingSetChanges, .listTableChanges, .stageTable, .stageAllTables,
    .unstageTable, .unstageAllTables, .showTables, .describeTable]

def name : Action -> String
  | .query => "query"
  | .exec => "exec"
  | .listDatabases => "list_databases"
  | .createDatabase => "create_database"
  | .dropDatabase => "drop_database"
  | .selectActiveBranch => "select_active_branch"
  | .listBranches => "list_dolt_branches"
  | .createBranch => "create_dolt_branch"
  | .deleteBranch => "delete_dolt_branch"
  | .mergeBranch => "merge_dolt_branch"
  | .listCommits => "list_dolt_commits"
  | .createCommit => "create_dolt_commit"
  | .resetHard => "dolt_reset_hard"
  | .listWorkingSetChanges => "list_dolt_diff_changes_in_working_set"
  | .listTableChanges => "list_dolt_diff_changes_by_table_name"
  | .stageTable => "stage_table_for_dolt_commit"
  | .stageAllTables => "stage_all_tables_for_dolt_commit"
  | .unstageTable => "unstage_table"
  | .unstageAllTables => "unstage_all_tables"
  | .showTables => "show_tables"
  | .describeTable => "describe_table"

def ofName? (text : String) : Option Action :=
  all.find? (fun action => action.name = text)

end Action
end ScopedSql
