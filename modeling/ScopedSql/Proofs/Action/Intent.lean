import ScopedSql.Proofs.Action.Plain
import ScopedSql.Proofs.Outcome

namespace ScopedSql

open Scripted

/-!
# What each action is meant to do

For every action it is fixed whether its work is kept, which argument names its
database and which its branch.  The plans of the actions agree with these
tables, and the statements that change something read as work to a session.
-/

/-! ## What is read from arguments -/

namespace Arguments

/-- A text that is given under a name, if the argument is a text. -/
def given? (arguments : Arguments) (name : String) : Option String :=
  (arguments.text? name).toOption.join

variable {arguments : Arguments} {name : String}

/-- A text that must be given is one that may be given and is. -/
theorem text_eq_ok {text : String} :
    arguments.text name = .ok text ↔ arguments.text? name = .ok (some text) := by
  rw [Arguments.text, bind_eq_ok]
  constructor
  · rintro ⟨found, read, made⟩
    cases found with
    | none => cases made
    | some s =>
        cases made
        exact read
  · exact fun read => ⟨some text, read, rfl⟩

theorem given?_of_text? {found : Option String} (read : arguments.text? name = .ok found) :
    arguments.given? name = found := by
  rw [given?, read]
  rfl

theorem given?_of_text {text : String} (read : arguments.text name = .ok text) :
    arguments.given? name = some text :=
  given?_of_text? (text_eq_ok.mp read)

end Arguments

/-! ## The tables -/

namespace Action

/-- Is the work of the action to be kept? -/
def writes : Action -> Bool
  | .exec | .createDatabase | .dropDatabase | .createBranch | .deleteBranch | .mergeBranch
  | .createCommit | .resetHard | .stageTable | .stageAllTables | .unstageTable
  | .unstageAllTables => true
  | _ => false

/-- The argument that names the database on which the action works. -/
def databaseSource? : Action -> Option String
  | .listDatabases | .createDatabase | .dropDatabase => none
  | _ => some databaseArgument

/-- The argument that names the branch on which the action works. -/
def branchSource? : Action -> Option String
  | .mergeBranch => some "destination_branch"
  | .listDatabases | .createDatabase | .dropDatabase | .selectActiveBranch | .listBranches
  | .createBranch | .deleteBranch => none
  | _ => some branchArgument

/-- The database and the branch that are asked for, as far as they are. -/
def place (action : Action) (arguments : Arguments) : Scope where
  database? := action.databaseSource?.bind arguments.given?
  branch? := action.branchSource?.bind arguments.given?

variable {classify : Sql.Classifier} {arguments : Arguments} {scope : Scope} {plan : Plan}

/-- A plan does what its action is meant to do, where its arguments ask for it. -/
inductive Suits (action : Action) (arguments : Arguments) : Plan -> Prop
  | pooled {sql : String} {format : Format} (lists : action = .listDatabases) :
      Suits action arguments (.pooled sql format)
  | read {scope : Scope} {sql : String} {format : Format} (reads : action.writes = false)
      (place : scope = action.place arguments) : Suits action arguments (.read scope sql format)
  | write {scope : Scope} {sql report : String} (writes : action.writes = true)
      (place : scope = action.place arguments)
      (work : action ≠ .exec -> Control.read sql = .work) :
      Suits action arguments (.write scope sql report)

theorem databaseScope_eq_ok (made : databaseScope arguments = .ok scope) :
    scope = ⟨arguments.given? databaseArgument, none⟩ := by
  simp only [databaseScope, bind_eq_ok, pure_eq_ok] at made
  rcases made with ⟨name, read, rfl⟩
  rw [Arguments.given?_of_text read]
  rfl

theorem branchScope_eq_ok (made : branchScope arguments = .ok scope) :
    scope = ⟨arguments.given? databaseArgument, arguments.given? branchArgument⟩ := by
  simp only [branchScope, bind_eq_ok, pure_eq_ok] at made
  rcases made with ⟨database, onDatabase, branch, read, rfl⟩
  rw [databaseScope_eq_ok onDatabase, Arguments.given?_of_text read]
  rfl

theorem looseScope_eq_ok (made : looseScope arguments = .ok scope) :
    scope = ⟨arguments.given? databaseArgument, arguments.given? branchArgument⟩ := by
  simp only [looseScope, bind_eq_ok] at made
  rcases made with ⟨database, onDatabase, branch, read, made⟩
  rw [databaseScope_eq_ok onDatabase] at made
  rw [Arguments.given?_of_text? read]
  cases branch <;> cases made <;> rfl

theorem readPlan_suits {action : Action} {result : Except Error Scope} {sql : String}
    (made : readPlan result sql arguments = .ok plan) (reads : action.writes = false)
    (place : forall scope, result = .ok scope -> scope = action.place arguments) :
    Suits action arguments plan := by
  simp only [readPlan, bind_eq_ok, pure_eq_ok] at made
  rcases made with ⟨scope, found, format, _, rfl⟩
  exact .read reads (place scope found)

theorem callPlan_suits {action : Action} {procedure report : String} {given : List String}
    (known : procedure ∈ changingProcedures)
    (writes : action.writes = true) (place : scope = action.place arguments) :
    Suits action arguments (.write scope (Sql.callProcedure procedure given) report) :=
  .write writes place fun _ => read_call known given

theorem databasePlan_suits {action : Action} {verb done : String}
    (made : databasePlan verb done arguments = .ok plan) (known : verb ∈ ["CREATE", "DROP"])
    (writes : action.writes = true) (place : Scope.plain = action.place arguments) :
    Suits action arguments plan := by
  simp only [databasePlan, bind_eq_ok, pure_eq_ok] at made
  rcases made with ⟨name, _, rfl⟩
  exact .write writes place fun _ => read_definition known name

theorem tablePlan_suits {action : Action} {procedure done : String}
    (made : tablePlan procedure done arguments = .ok plan)
    (known : procedure ∈ changingProcedures)
    (writes : action.writes = true)
    (place : action.place arguments =
      ⟨arguments.given? databaseArgument, arguments.given? branchArgument⟩) :
    Suits action arguments plan := by
  simp only [tablePlan, bind_eq_ok, pure_eq_ok] at made
  rcases made with ⟨scope, found, name, _, rfl⟩
  exact callPlan_suits known writes ((branchScope_eq_ok found).trans place.symm)

theorem allTablesPlan_suits {action : Action} {procedure done : String} {options : List String}
    (made : allTablesPlan procedure options done arguments = .ok plan)
    (known : procedure ∈ changingProcedures)
    (writes : action.writes = true)
    (place : action.place arguments =
      ⟨arguments.given? databaseArgument, arguments.given? branchArgument⟩) :
    Suits action arguments plan := by
  simp only [allTablesPlan, bind_eq_ok, pure_eq_ok] at made
  rcases made with ⟨scope, found, rfl⟩
  exact callPlan_suits known writes ((branchScope_eq_ok found).trans place.symm)

/-- Every plan does what its action is meant to do, where the arguments ask for it. -/
theorem plan_suits (action : Action) (made : action.plan classify arguments = .ok plan) :
    Suits action arguments plan := by
  cases action with
  | query =>
      simp only [Action.plan, bind_eq_ok, pure_eq_ok] at made
      rcases made with ⟨scope, found, sql, _, format, _, rfl⟩
      exact .read rfl (looseScope_eq_ok found)
  | exec =>
      simp only [Action.plan, bind_eq_ok, pure_eq_ok] at made
      rcases made with ⟨scope, found, sql, _, rfl⟩
      exact .write rfl (looseScope_eq_ok found) fun other => absurd rfl other
  | listDatabases =>
      simp only [Action.plan, bind_eq_ok, pure_eq_ok] at made
      rcases made with ⟨format, _, rfl⟩
      exact .pooled rfl
  | createDatabase => exact databasePlan_suits made (by simp) rfl rfl
  | dropDatabase => exact databasePlan_suits made (by simp) rfl rfl
  | selectActiveBranch => exact readPlan_suits made rfl fun scope => databaseScope_eq_ok
  | listBranches => exact readPlan_suits made rfl fun scope => databaseScope_eq_ok
  | createBranch =>
      simp only [Action.plan, createBranchPlan, bind_eq_ok, pure_eq_ok] at made
      rcases made with ⟨scope, found, branch, _, source, _, force, _, copied, _, rfl⟩
      exact callPlan_suits (by decide) rfl (databaseScope_eq_ok found)
  | deleteBranch =>
      simp only [Action.plan, deleteBranchPlan, bind_eq_ok, pure_eq_ok] at made
      rcases made with ⟨scope, found, branch, _, force, _, rfl⟩
      exact callPlan_suits (by decide) rfl (databaseScope_eq_ok found)
  | mergeBranch =>
      simp only [Action.plan, mergeBranchPlan, bind_eq_ok, pure_eq_ok] at made
      rcases made with ⟨source, _, destination, onto, checked, _, scope, found, rfl⟩
      refine callPlan_suits (by decide) rfl ?_
      rw [databaseScope_eq_ok found, place]
      simp only [branchSource?, Option.bind_some, Arguments.given?_of_text onto]
      rfl
  | listCommits => exact readPlan_suits made rfl fun scope => branchScope_eq_ok
  | createCommit =>
      simp only [Action.plan, createCommitPlan, bind_eq_ok, pure_eq_ok] at made
      rcases made with ⟨scope, found, message, _, all, _, rfl⟩
      exact callPlan_suits (by decide) rfl (branchScope_eq_ok found)
  | resetHard =>
      simp only [Action.plan, resetHardPlan, bind_eq_ok, pure_eq_ok] at made
      rcases made with ⟨scope, found, revision, _, checked, _, rfl⟩
      exact callPlan_suits (by decide) rfl (branchScope_eq_ok found)
  | listWorkingSetChanges => exact readPlan_suits made rfl fun scope => branchScope_eq_ok
  | listTableChanges =>
      simp only [Action.plan, tableChangesPlan, bind_eq_ok, pure_eq_ok] at made
      rcases made with ⟨scope, found, table, _, from?, _, to?, _, first, _, last, _, name, _,
        format, _, rfl⟩
      exact .read rfl (branchScope_eq_ok found)
  | stageTable => exact tablePlan_suits made (by decide) rfl rfl
  | stageAllTables => exact allTablesPlan_suits made (by decide) rfl rfl
  | unstageTable => exact tablePlan_suits made (by decide) rfl rfl
  | unstageAllTables => exact allTablesPlan_suits made (by decide) rfl rfl
  | showTables => exact readPlan_suits made rfl fun scope => looseScope_eq_ok
  | describeTable =>
      simp only [Action.plan, bind_eq_ok, pure_eq_ok] at made
      rcases made with ⟨scope, found, table, _, format, _, rfl⟩
      exact .read rfl (looseScope_eq_ok found)

/-- The statement of the two actions that run what a caller brings is what the caller brought. -/
theorem sql_of_caller {action : Action} (brings : action = .query ∨ action = .exec)
    (made : action.plan classify arguments = .ok plan) :
    arguments.text Sql.statementArgument = .ok plan.sql := by
  rcases brings with rfl | rfl
  · simp only [Action.plan, bind_eq_ok, pure_eq_ok] at made
    rcases made with ⟨scope, _, sql, brought, format, _, rfl⟩
    exact callerStatement_eq_ok brought
  · simp only [Action.plan, bind_eq_ok, pure_eq_ok] at made
    rcases made with ⟨scope, _, sql, brought, rfl⟩
    exact callerStatement_eq_ok brought

end Action
end ScopedSql
