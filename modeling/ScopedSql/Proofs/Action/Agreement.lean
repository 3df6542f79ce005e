import ScopedSql.Proofs.Action.Needs

namespace ScopedSql

/-!
# What an action does not read

An action reads from its arguments what it needs and nothing else, and it does
not tell an absent argument from a null one, nor an absent text from an empty
one.  So two maps of arguments that agree on the needs of an action make one plan,
whatever else they hold.  There is nothing in the table of needs that is not read.
-/

variable {arguments other : Arguments} {name : String}

/-! ## Agreement -/

namespace Arguments

/-- The value of an argument that should be a text; an empty text counts as none. -/
def filled? (arguments : Arguments) (name : String) : Option Json :=
  match arguments.value? name with
  | some (.text s) => if s = "" then none else some (.text s)
  | found => found

end Arguments

/-- Two maps of arguments say the same where something is needed. -/
def Need.Agrees (arguments other : Arguments) : Need -> Prop
  | .text name _ | .option name _ => other.filled? name = arguments.filled? name
  | .flag name => other.value? name = arguments.value? name
  | .format => other.filled? Format.argumentName = arguments.filled? Format.argumentName

/-- Two maps of arguments say the same where the action reads them. -/
def Action.Agrees (arguments other : Arguments) (action : Action) : Prop :=
  forall need, need ∈ action.needs -> need.Agrees arguments other

/-! ## Readers of arguments -/

namespace Arguments

/-- A reader of texts sees only whether a text is there that is not empty. -/
theorem text?_eq (arguments : Arguments) (name : String) :
    arguments.text? name =
      match arguments.filled? name with
      | none => .ok none
      | some (.text s) => .ok (some s)
      | some other => .error (.argument name (.notString other.compact)) := by
  rw [text?, filled?]
  cases arguments.value? name with
  | none => rfl
  | some value =>
      cases value with
      | text s =>
          by_cases empty : s = ""
          · simp only [empty, if_true]
          · simp only [empty, if_false]
      | _ => rfl

theorem text?_congr (same : other.filled? name = arguments.filled? name) :
    other.text? name = arguments.text? name := by
  rw [text?_eq, text?_eq, same]

theorem text_congr (same : other.filled? name = arguments.filled? name) :
    other.text name = arguments.text name := by
  rw [text, text, text?_congr same]

theorem flag_congr (same : other.value? name = arguments.value? name) :
    other.flag name = arguments.flag name := by
  rw [flag, flag, same]

theorem format_congr (same : Need.Agrees arguments other .format) :
    other.format = arguments.format := by
  rw [format, format, text?_congr same]

end Arguments

/-! ## Plans -/

namespace Action

variable {classify : Sql.Classifier} {action : Action}

section

variable (database : Need.Agrees arguments other (.text databaseArgument (some .database)))
include database

theorem databaseScope_congr : databaseScope other = databaseScope arguments := by
  rw [databaseScope, databaseScope, Arguments.text_congr database]

theorem branchScope_congr
    (branch : Need.Agrees arguments other (.text branchArgument (some .branch))) :
    branchScope other = branchScope arguments := by
  rw [branchScope, branchScope, databaseScope_congr database, Arguments.text_congr branch]

theorem looseScope_congr
    (branch : Need.Agrees arguments other (.option branchArgument (some .branch))) :
    looseScope other = looseScope arguments := by
  rw [looseScope, looseScope, databaseScope_congr database, Arguments.text?_congr branch]

theorem databasePlan_congr (verb done : String) :
    databasePlan verb done other = databasePlan verb done arguments := by
  rw [databasePlan, databasePlan, checkedName, checkedName, Arguments.text_congr database]

theorem allTablesPlan_congr
    (branch : Need.Agrees arguments other (.text branchArgument (some .branch)))
    (procedure : String) (options : List String) (done : String) :
    allTablesPlan procedure options done other = allTablesPlan procedure options done arguments := by
  rw [allTablesPlan, allTablesPlan, branchScope_congr database branch]

theorem tablePlan_congr
    (branch : Need.Agrees arguments other (.text branchArgument (some .branch)))
    (table : Need.Agrees arguments other (.text tableArgument (some .table)))
    (procedure done : String) :
    tablePlan procedure done other = tablePlan procedure done arguments := by
  rw [tablePlan, tablePlan, branchScope_congr database branch, checkedName, checkedName,
    Arguments.text_congr table]

end

theorem readPlan_congr {scope otherScope : Except Error Scope} (same : otherScope = scope)
    (format : Need.Agrees arguments other .format) (sql : String) :
    readPlan otherScope sql other = readPlan scope sql arguments := by
  rw [readPlan, readPlan, same, Arguments.format_congr format]

theorem callerStatement_congr
    (statement : Need.Agrees arguments other (.text Sql.statementArgument none))
    (expected : Sql.StatementKind) :
    callerStatement classify other expected = callerStatement classify arguments expected := by
  rw [callerStatement, callerStatement, Arguments.text_congr statement]

/-- The plan of an action depends on nothing but what the action needs. -/
theorem plan_congr (agrees : action.Agrees arguments other) :
    action.plan classify other = action.plan classify arguments := by
  unfold Action.Agrees at agrees
  cases action <;> simp only [needs, List.forall_mem_cons] at agrees
  case query =>
    rcases agrees with ⟨database, branch, statement, format, _⟩
    rw [plan, plan, looseScope_congr database branch, callerStatement_congr statement,
      Arguments.format_congr format]
  case exec =>
    rcases agrees with ⟨database, branch, statement, _⟩
    rw [plan, plan, looseScope_congr database branch, callerStatement_congr statement]
  case listDatabases => rw [plan, plan, Arguments.format_congr agrees.1]
  case createDatabase => exact databasePlan_congr agrees.1 _ _
  case dropDatabase => exact databasePlan_congr agrees.1 _ _
  case selectActiveBranch =>
    exact readPlan_congr (databaseScope_congr agrees.1) agrees.2.1 _
  case listBranches => exact readPlan_congr (databaseScope_congr agrees.1) agrees.2.1 _
  case createBranch =>
    rcases agrees with ⟨database, branch, source, force, _⟩
    rw [plan, plan, createBranchPlan, createBranchPlan, databaseScope_congr database, checkedName,
      checkedName, Arguments.text_congr branch, Arguments.text?_congr source,
      Arguments.flag_congr force]
  case deleteBranch =>
    rcases agrees with ⟨database, branch, force, _⟩
    rw [plan, plan, deleteBranchPlan, deleteBranchPlan, databaseScope_congr database, checkedName,
      checkedName, Arguments.text_congr branch, Arguments.flag_congr force]
  case mergeBranch =>
    rcases agrees with ⟨database, destination, source, _⟩
    rw [plan, plan, mergeBranchPlan, mergeBranchPlan, databaseScope_congr database,
      Arguments.text_congr destination, Arguments.text_congr source]
  case listCommits =>
    rcases agrees with ⟨database, branch, format, _⟩
    exact readPlan_congr (branchScope_congr database branch) format _
  case createCommit =>
    rcases agrees with ⟨database, branch, message, all, _⟩
    rw [plan, plan, createCommitPlan, createCommitPlan, branchScope_congr database branch,
      Arguments.text_congr message, Arguments.flag_congr all]
  case resetHard =>
    rcases agrees with ⟨database, branch, revision, _⟩
    rw [plan, plan, resetHardPlan, resetHardPlan, branchScope_congr database branch,
      Arguments.text?_congr revision]
  case listWorkingSetChanges =>
    rcases agrees with ⟨database, branch, format, _⟩
    exact readPlan_congr (branchScope_congr database branch) format _
  case listTableChanges =>
    rcases agrees with ⟨database, branch, table, first, last, format, _⟩
    rw [plan, plan, tableChangesPlan, tableChangesPlan, branchScope_congr database branch,
      Arguments.text_congr table, Arguments.text?_congr first, Arguments.text?_congr last,
      Arguments.format_congr format]
  case stageTable =>
    rcases agrees with ⟨database, branch, table, _⟩
    exact tablePlan_congr database branch table _ _
  case stageAllTables => exact allTablesPlan_congr agrees.1 agrees.2.1 _ _ _
  case unstageTable =>
    rcases agrees with ⟨database, branch, table, _⟩
    exact tablePlan_congr database branch table _ _
  case unstageAllTables => exact allTablesPlan_congr agrees.1 agrees.2.1 _ _ _
  case showTables =>
    rcases agrees with ⟨database, branch, format, _⟩
    exact readPlan_congr (looseScope_congr database branch) format _
  case describeTable =>
    rcases agrees with ⟨database, branch, table, format, _⟩
    rw [plan, plan, looseScope_congr database branch, checkedName, checkedName,
      Arguments.text_congr table, Arguments.format_congr format]

end Action

/-! ## The table is read in full -/

/-- The name of the argument in which something is needed. -/
def Need.argument : Need -> String
  | .text name _ | .option name _ | .flag name => name
  | .format => Format.argumentName

/-- A value that does for what is needed. -/
def Need.sample : Need -> Json
  | .text _ _ | .option _ _ => .text "a"
  | .flag _ => .bool true
  | .format => .text "csv"

namespace Action

/-- Arguments that leave nothing to be desired. -/
def supplies (action : Action) : Arguments :=
  ⟨action.needs.map (fun need => (need.argument, need.sample))⟩

/-- A classifier that finds whatever the action expects. -/
def indulgent (action : Action) : Sql.Classifier :=
  fun _ => .ok (action.expects?.getD .read)

/-- What is needed is read: its argument can spoil a plan by itself. -/
structure Reads (action : Action) (need : Need) : Prop where
  supplied : (action.plan action.indulgent action.supplies).isOk = true
  spoiled : (action.plan action.indulgent
    (action.supplies.set need.argument (.list []))).isOk = false

/-- No need of an action is idle. -/
theorem reads_of_mem_needs (action : Action) {need : Need} (there : need ∈ action.needs) :
    action.Reads need := by
  have spoiled : forall need, need ∈ action.needs ->
      (action.plan action.indulgent action.supplies).isOk = true ∧
        (action.plan action.indulgent
          (action.supplies.set need.argument (.list []))).isOk = false := by
    cases action <;> decide +kernel
  rcases spoiled need there with ⟨supplied, spoiled⟩
  exact ⟨supplied, spoiled⟩

end Action
end ScopedSql
