import ScopedSql.Proofs.Action.Intent
import ScopedSql.Proofs.World.Blame

namespace ScopedSql

/-!
# What actions need

For every action it is listed which arguments it reads, which of them it cannot
do without, and which must be names of some kind.  A plan comes out only if all
of these needs are met, apart from the names of the scope, at which a transaction
looks when it begins.  If no plan comes out, this is the fault of the arguments,
or of the classifier to which the statement of a caller was shown.
-/

variable {arguments : Arguments} {name : String}

/-! ## Needs -/

/-- Something that an action reads from its arguments. -/
inductive Need
  /-- A text that must be given, and perhaps a name of some kind. -/
  | text (name : String) (kind : Option Name.Kind)
  /-- A text that may be absent, and perhaps a name of some kind. -/
  | option (name : String) (kind : Option Name.Kind)
  | flag (name : String)
  /-- The format of the answer. -/
  | format
  deriving DecidableEq, Repr

namespace Need

/-- A text is a name of the kind that is asked for, if one is. -/
def Fits (kind : Option Name.Kind) (text : String) : Prop :=
  forall asked, kind = some asked -> asked.accepts text.toList = true

/-- The arguments hold what is needed. -/
def Met (arguments : Arguments) : Need -> Prop
  | .text name kind => exists text, arguments.value? name = some (.text text) ∧ text ≠ "" ∧
    Fits kind text
  | .option name kind => arguments.value? name = none ∨
    exists text, arguments.value? name = some (.text text) ∧ (text = "" ∨ Fits kind text)
  | .flag name => arguments.value? name = none ∨
    exists value, arguments.value? name = some (.bool value)
  | .format => arguments.value? Format.argumentName = none ∨
    exists text, arguments.value? Format.argumentName = some (.text text) ∧
      (text = "" ∨ exists format, Format.parse text = .ok format)

theorem fits_none (text : String) : Fits none text :=
  fun _ asked => nomatch asked

theorem fits_some {kind : Name.Kind} {text : String} (accepted : kind.accepts text.toList = true) :
    Fits (some kind) text := by
  rintro _ ⟨⟩
  exact accepted

end Need

namespace Arguments

/-- What a text that may be absent comes from. -/
theorem value?_of_text? {found : Option String} (read : arguments.text? name = .ok found) :
    (found = none ∧ (arguments.value? name = none ∨ arguments.value? name = some (.text ""))) ∨
      exists text, found = some text ∧ arguments.value? name = some (.text text) ∧ text ≠ "" := by
  unfold text? at read
  split at read
  · rename_i absent
    cases read
    exact Or.inl ⟨rfl, Or.inl absent⟩
  · rename_i text given
    split at read
    · rename_i empty
      cases read
      exact Or.inl ⟨rfl, Or.inr (empty ▸ given)⟩
    · rename_i filled
      cases read
      exact Or.inr ⟨text, rfl, given, filled⟩
  · cases read

theorem met_text {text : String} {kind : Option Name.Kind} (read : arguments.text name = .ok text)
    (fits : Need.Fits kind text) : Need.Met arguments (.text name kind) := by
  rcases value?_of_text? (text_eq_ok.mp read) with ⟨absent, _⟩ | ⟨_, ⟨⟩, given, filled⟩
  · cases absent
  · exact ⟨text, given, filled, fits⟩

theorem met_option {found : Option String} {kind : Option Name.Kind}
    (read : arguments.text? name = .ok found)
    (fits : forall text, found = some text -> Need.Fits kind text) :
    Need.Met arguments (.option name kind) := by
  rcases value?_of_text? read with ⟨_, absent | empty⟩ | ⟨text, here, given, _⟩
  · exact Or.inl absent
  · exact Or.inr ⟨"", empty, Or.inl rfl⟩
  · exact Or.inr ⟨text, given, Or.inr (fits text here)⟩

theorem met_flag {value : Bool} (read : arguments.flag name = .ok value) :
    Need.Met arguments (.flag name) := by
  unfold flag at read
  split at read
  · rename_i absent
    exact Or.inl absent
  · rename_i given
    exact Or.inr ⟨_, given⟩
  · cases read

theorem met_format {format : Format} (read : arguments.format = .ok format) :
    Need.Met arguments .format := by
  rw [Arguments.format, bind_eq_ok] at read
  rcases read with ⟨found, read, made⟩
  rcases value?_of_text? read with ⟨_, absent | empty⟩ | ⟨text, rfl, given, _⟩
  · exact Or.inl absent
  · exact Or.inr ⟨"", empty, Or.inl rfl⟩
  · exact Or.inr ⟨text, given, Or.inr ⟨format, made⟩⟩

end Arguments

/-- A name that may be absent is checked if it is there. -/
theorem Name.checkOption_eq_ok {kind : Kind} {given found : Option String} :
    given.mapM (check kind) = .ok found ↔
      found = given ∧ forall name, given = some name -> kind.accepts name.toList = true := by
  cases given with
  | none =>
      constructor
      · rintro ⟨⟩
        exact ⟨rfl, fun _ absent => nomatch absent⟩
      · rintro ⟨rfl, _⟩
        rfl
  | some name =>
      rw [Option.mapM_some]
      simp only [Functor.map, Except.map]
      constructor
      · intro read
        cases checked : check kind name with
        | error e =>
            rw [checked] at read
            cases read
        | ok same =>
            rw [checked] at read
            cases read
            rcases check_eq_ok_iff.mp checked with ⟨accepted, rfl⟩
            refine ⟨rfl, ?_⟩
            rintro _ ⟨⟩
            exact accepted
      · rintro ⟨rfl, accepted⟩
        rw [check_eq_ok_iff.mpr ⟨accepted name rfl, rfl⟩]

/-! ## The table -/

namespace Action

/-- All that an action reads from its arguments. -/
def needs : Action -> List Need
  | .query => [.text databaseArgument (some .database), .option branchArgument (some .branch),
      .text Sql.statementArgument none, .format]
  | .exec => [.text databaseArgument (some .database), .option branchArgument (some .branch),
      .text Sql.statementArgument none]
  | .listDatabases => [.format]
  | .createDatabase | .dropDatabase => [.text databaseArgument (some .database)]
  | .selectActiveBranch | .listBranches => [.text databaseArgument (some .database), .format]
  | .createBranch => [.text databaseArgument (some .database), .text "new_branch" (some .branch),
      .option "original_branch" (some .branch), .flag "force"]
  | .deleteBranch => [.text databaseArgument (some .database), .text branchArgument (some .branch),
      .flag "force"]
  | .mergeBranch => [.text databaseArgument (some .database),
      .text "destination_branch" (some .branch), .text "source_branch" (some .branch)]
  | .listCommits | .listWorkingSetChanges => [.text databaseArgument (some .database),
      .text branchArgument (some .branch), .format]
  | .createCommit => [.text databaseArgument (some .database), .text branchArgument (some .branch),
      .text "message" none, .flag "add_all"]
  | .resetHard => [.text databaseArgument (some .database), .text branchArgument (some .branch),
      .option "revision" (some .revision)]
  | .listTableChanges => [.text databaseArgument (some .database),
      .text branchArgument (some .branch), .text tableArgument (some .table),
      .option "from_revision" (some .revision), .option "to_revision" (some .revision), .format]
  | .stageTable | .unstageTable => [.text databaseArgument (some .database),
      .text branchArgument (some .branch), .text tableArgument (some .table)]
  | .stageAllTables | .unstageAllTables => [.text databaseArgument (some .database),
      .text branchArgument (some .branch)]
  | .showTables => [.text databaseArgument (some .database), .option branchArgument (some .branch),
      .format]
  | .describeTable => [.text databaseArgument (some .database),
      .option branchArgument (some .branch), .text tableArgument (some .table), .format]

/-- The kind of statement that a caller must bring. -/
def expects? : Action -> Option Sql.StatementKind
  | .query => some .read
  | .exec => some .write
  | _ => none

variable {classify : Sql.Classifier} {scope : Scope} {plan : Plan} {action : Action}

/-! ## A plan that comes out -/

theorem met_database (found : databaseScope arguments = .ok scope) (valid : scope.Valid) :
    Need.Met arguments (.text databaseArgument (some .database)) := by
  simp only [databaseScope, bind_eq_ok, pure_eq_ok] at found
  rcases found with ⟨name, read, rfl⟩
  exact Arguments.met_text read (Need.fits_some (valid.database name rfl))

theorem met_branch (found : branchScope arguments = .ok scope) (valid : scope.Valid) :
    Need.Met arguments (.text databaseArgument (some .database)) ∧
      Need.Met arguments (.text branchArgument (some .branch)) := by
  simp only [branchScope, bind_eq_ok, pure_eq_ok] at found
  rcases found with ⟨database, onDatabase, branch, read, rfl⟩
  refine ⟨met_database onDatabase ⟨valid.database, ?_⟩,
    Arguments.met_text read (Need.fits_some (valid.branch branch rfl))⟩
  intro name given
  rw [databaseScope_eq_ok onDatabase] at given
  cases given

theorem met_looseBranch (found : looseScope arguments = .ok scope) (valid : scope.Valid) :
    Need.Met arguments (.text databaseArgument (some .database)) ∧
      Need.Met arguments (.option branchArgument (some .branch)) := by
  simp only [looseScope, bind_eq_ok] at found
  rcases found with ⟨database, onDatabase, branch, read, made⟩
  have noBranch : forall name, database.branch? = some name ->
      Name.Kind.branch.accepts name.toList = true := by
    intro name given
    rw [databaseScope_eq_ok onDatabase] at given
    cases given
  cases branch with
  | none =>
      cases made
      exact ⟨met_database onDatabase valid,
        Arguments.met_option read (by rintro _ ⟨⟩)⟩
  | some branch =>
      cases made
      refine ⟨met_database onDatabase ⟨valid.database, noBranch⟩,
        Arguments.met_option read ?_⟩
      rintro _ ⟨⟩
      exact Need.fits_some (valid.branch branch rfl)

theorem met_checked {kind : Name.Kind} {checked : String}
    (found : checkedName arguments name kind = .ok checked) :
    Need.Met arguments (.text name (some kind)) := by
  simp only [checkedName, bind_eq_ok, Name.check_eq_ok_iff] at found
  rcases found with ⟨text, read, accepted, _⟩
  exact Arguments.met_text read (Need.fits_some accepted)

theorem met_option_checked {kind : Name.Kind} {given found : Option String}
    (read : arguments.text? name = .ok given) (checked : given.mapM (Name.check kind) = .ok found) :
    Need.Met arguments (.option name (some kind)) :=
  Arguments.met_option read fun text here =>
    Need.fits_some ((Name.checkOption_eq_ok.mp checked).2 text here)

/-- A name with a default is checked in any case. -/
theorem met_default {kind : Name.Kind} {given : Option String} {default' found : String}
    (read : arguments.text? name = .ok given)
    (checked : Name.check kind (given.getD default') = .ok found) :
    Need.Met arguments (.option name (some kind)) := by
  apply Arguments.met_option read
  rintro text rfl
  exact Need.fits_some (Name.check_eq_ok_iff.mp checked).1

theorem readPlan_met {result : Except Error Scope} {sql : String}
    (made : readPlan result sql arguments = .ok plan) :
    (exists scope, result = .ok scope) ∧ Need.Met arguments .format := by
  simp only [readPlan, bind_eq_ok, pure_eq_ok] at made
  rcases made with ⟨scope, found, format, read, rfl⟩
  exact ⟨⟨scope, found⟩, Arguments.met_format read⟩

theorem databasePlan_met {verb done : String}
    (made : databasePlan verb done arguments = .ok plan) :
    forall need, need ∈ [Need.text databaseArgument (some .database)] -> need.Met arguments := by
  simp only [databasePlan, bind_eq_ok] at made
  rcases made with ⟨name, named, _⟩
  simp [met_checked named]

theorem tablePlan_met {procedure done : String}
    (made : tablePlan procedure done arguments = .ok plan)
    (valid : Scope.Valid ⟨arguments.given? databaseArgument, arguments.given? branchArgument⟩) :
    forall need, need ∈ [Need.text databaseArgument (some .database),
      .text branchArgument (some .branch), .text tableArgument (some .table)] ->
      need.Met arguments := by
  simp only [tablePlan, bind_eq_ok] at made
  rcases made with ⟨scope, found, table, named, _⟩
  rcases met_branch found (branchScope_eq_ok found ▸ valid) with ⟨database, branch⟩
  simp [database, branch, met_checked named]

theorem allTablesPlan_met {procedure done : String} {options : List String}
    (made : allTablesPlan procedure options done arguments = .ok plan)
    (valid : Scope.Valid ⟨arguments.given? databaseArgument, arguments.given? branchArgument⟩) :
    forall need, need ∈ [Need.text databaseArgument (some .database),
      .text branchArgument (some .branch)] -> need.Met arguments := by
  simp only [allTablesPlan, bind_eq_ok] at made
  rcases made with ⟨scope, found, _⟩
  rcases met_branch found (branchScope_eq_ok found ▸ valid) with ⟨database, branch⟩
  simp [database, branch]

/-- What is needed of a caller who brings a statement. -/
theorem met_caller {kind : Sql.StatementKind} {sql : String}
    (found : looseScope arguments = .ok scope) (valid : scope.Valid)
    (brought : callerStatement classify arguments kind = .ok sql) :
    forall need, need ∈ [Need.text databaseArgument (some .database),
      .option branchArgument (some .branch), .text Sql.statementArgument none] ->
      need.Met arguments := by
  rcases met_looseBranch found valid with ⟨database, branch⟩
  have statement := Arguments.met_text (callerStatement_eq_ok brought) (Need.fits_none sql)
  simp [database, branch, statement]

theorem createBranchPlan_met (made : createBranchPlan arguments = .ok plan)
    (valid : (createBranch.place arguments).Valid) :
    forall need, need ∈ createBranch.needs -> need.Met arguments := by
  simp only [createBranchPlan, bind_eq_ok, pure_eq_ok] at made
  rcases made with ⟨scope, found, branch, named, source, copies, force, forced, copied, checked,
    rfl⟩
  simp [needs, met_database found (databaseScope_eq_ok found ▸ valid), met_checked named,
    met_option_checked copies checked, Arguments.met_flag forced]

theorem deleteBranchPlan_met (made : deleteBranchPlan arguments = .ok plan)
    (valid : (deleteBranch.place arguments).Valid) :
    forall need, need ∈ deleteBranch.needs -> need.Met arguments := by
  simp only [deleteBranchPlan, bind_eq_ok, pure_eq_ok] at made
  rcases made with ⟨scope, found, branch, named, force, forced, rfl⟩
  simp [needs, met_database found (databaseScope_eq_ok found ▸ valid), met_checked named,
    Arguments.met_flag forced]

/-- The branch that is merged into is checked as a part of the scope only. -/
theorem mergeBranchPlan_met (made : mergeBranchPlan arguments = .ok plan)
    (valid : (mergeBranch.place arguments).Valid) :
    forall need, need ∈ mergeBranch.needs -> need.Met arguments := by
  simp only [mergeBranchPlan, bind_eq_ok, pure_eq_ok, Name.check_eq_ok_iff] at made
  rcases made with ⟨source, from', destination, onto, checked, ⟨accepted, rfl⟩, scope, found, rfl⟩
  have onDatabase : scope.Valid := by
    rw [databaseScope_eq_ok found]
    exact ⟨valid.database, by rintro _ ⟨⟩⟩
  have ontoBranch := valid.branch destination (Arguments.given?_of_text onto)
  simp [needs, met_database found onDatabase, Arguments.met_text onto (Need.fits_some ontoBranch),
    Arguments.met_text from' (Need.fits_some accepted)]

theorem createCommitPlan_met (made : createCommitPlan arguments = .ok plan)
    (valid : (createCommit.place arguments).Valid) :
    forall need, need ∈ createCommit.needs -> need.Met arguments := by
  simp only [createCommitPlan, bind_eq_ok, pure_eq_ok] at made
  rcases made with ⟨scope, found, message, said, all, added, rfl⟩
  rcases met_branch found (branchScope_eq_ok found ▸ valid) with ⟨database, branch⟩
  simp [needs, database, branch, Arguments.met_text said (Need.fits_none message),
    Arguments.met_flag added]

theorem resetHardPlan_met (made : resetHardPlan arguments = .ok plan)
    (valid : (resetHard.place arguments).Valid) :
    forall need, need ∈ resetHard.needs -> need.Met arguments := by
  simp only [resetHardPlan, bind_eq_ok, pure_eq_ok] at made
  rcases made with ⟨scope, found, given, read, revision, checked, rfl⟩
  rcases met_branch found (branchScope_eq_ok found ▸ valid) with ⟨database, branch⟩
  simp [needs, database, branch, met_option_checked read checked]

theorem tableChangesPlan_met (made : tableChangesPlan arguments = .ok plan)
    (valid : (listTableChanges.place arguments).Valid) :
    forall need, need ∈ listTableChanges.needs -> need.Met arguments := by
  simp only [tableChangesPlan, bind_eq_ok, pure_eq_ok] at made
  rcases made with ⟨scope, found, table, named, from?, readFrom, to?, readTo, first,
    checkedFrom, last, checkedTo, name, checkedTable, format, read, rfl⟩
  rcases met_branch found (branchScope_eq_ok found ▸ valid) with ⟨database, branch⟩
  have accepted := (Name.check_eq_ok_iff.mp checkedTable).1
  simp [needs, database, branch, Arguments.met_text named (Need.fits_some accepted),
    met_default readFrom checkedFrom, met_default readTo checkedTo, Arguments.met_format read]

theorem describeTablePlan_met (made : describeTable.plan classify arguments = .ok plan)
    (valid : (describeTable.place arguments).Valid) :
    forall need, need ∈ describeTable.needs -> need.Met arguments := by
  simp only [Action.plan, bind_eq_ok, pure_eq_ok] at made
  rcases made with ⟨scope, found, table, named, format, read, rfl⟩
  rcases met_looseBranch found (looseScope_eq_ok found ▸ valid) with ⟨database, branch⟩
  simp [needs, database, branch, met_checked named, Arguments.met_format read]

/-- If a plan comes out and the names of its scope are right, all that the action needs was
there. -/
theorem needs_met (action : Action) (made : action.plan classify arguments = .ok plan)
    (valid : (action.place arguments).Valid) :
    forall need, need ∈ action.needs -> need.Met arguments := by
  cases action with
  | query =>
      simp only [Action.plan, bind_eq_ok, pure_eq_ok] at made
      rcases made with ⟨scope, found, sql, brought, format, read, rfl⟩
      have caller := met_caller found (looseScope_eq_ok found ▸ valid) brought
      exact List.forall_mem_append.mpr
        ⟨caller, List.forall_mem_singleton.mpr (Arguments.met_format read)⟩
  | exec =>
      simp only [Action.plan, bind_eq_ok, pure_eq_ok] at made
      rcases made with ⟨scope, found, sql, brought, rfl⟩
      exact met_caller found (looseScope_eq_ok found ▸ valid) brought
  | listDatabases =>
      simp only [Action.plan, bind_eq_ok, pure_eq_ok] at made
      rcases made with ⟨format, read, rfl⟩
      simp [needs, Arguments.met_format read]
  | createDatabase => exact databasePlan_met made
  | dropDatabase => exact databasePlan_met made
  | selectActiveBranch =>
      rcases readPlan_met made with ⟨⟨scope, found⟩, format⟩
      simp [needs, met_database found (databaseScope_eq_ok found ▸ valid), format]
  | listBranches =>
      rcases readPlan_met made with ⟨⟨scope, found⟩, format⟩
      simp [needs, met_database found (databaseScope_eq_ok found ▸ valid), format]
  | createBranch => exact createBranchPlan_met made valid
  | deleteBranch => exact deleteBranchPlan_met made valid
  | mergeBranch => exact mergeBranchPlan_met made valid
  | listCommits =>
      rcases readPlan_met made with ⟨⟨scope, found⟩, format⟩
      rcases met_branch found (branchScope_eq_ok found ▸ valid) with ⟨database, branch⟩
      simp [needs, database, branch, format]
  | createCommit => exact createCommitPlan_met made valid
  | resetHard => exact resetHardPlan_met made valid
  | listWorkingSetChanges =>
      rcases readPlan_met made with ⟨⟨scope, found⟩, format⟩
      rcases met_branch found (branchScope_eq_ok found ▸ valid) with ⟨database, branch⟩
      simp [needs, database, branch, format]
  | listTableChanges => exact tableChangesPlan_met made valid
  | stageTable => exact tablePlan_met made valid
  | stageAllTables => exact allTablesPlan_met made valid
  | unstageTable => exact tablePlan_met made valid
  | unstageAllTables => exact allTablesPlan_met made valid
  | showTables =>
      rcases readPlan_met made with ⟨⟨scope, found⟩, format⟩
      rcases met_looseBranch found (looseScope_eq_ok found ▸ valid) with ⟨database, branch⟩
      simp [needs, database, branch, format]
  | describeTable => exact describeTablePlan_met made valid

/-- A statement for which a plan comes out is of the kind that is asked for. -/
theorem kind_of_plan {action : Action} {kind : Sql.StatementKind}
    (made : action.plan classify arguments = .ok plan) (asked : action.expects? = some kind) :
    exists sql, arguments.text Sql.statementArgument = .ok sql ∧ classify sql = .ok kind := by
  have kindOf : forall {expected : Sql.StatementKind} {sql : String},
      callerStatement classify arguments expected = .ok sql -> classify sql = .ok expected := by
    intro expected sql brought
    simp only [callerStatement, Sql.Classifier.expect, bind_eq_ok, pure_eq_ok] at brought
    rcases brought with ⟨given, _, _, ⟨found, judged, agrees⟩, rfl⟩
    split at agrees
    · rename_i same
      exact same ▸ judged
    · cases agrees
  cases action with
  | query =>
      cases asked
      simp only [Action.plan, bind_eq_ok, pure_eq_ok] at made
      rcases made with ⟨scope, _, sql, brought, _⟩
      exact ⟨sql, callerStatement_eq_ok brought, kindOf brought⟩
  | exec =>
      cases asked
      simp only [Action.plan, bind_eq_ok, pure_eq_ok] at made
      rcases made with ⟨scope, _, sql, brought, _⟩
      exact ⟨sql, callerStatement_eq_ok brought, kindOf brought⟩
  | _ => cases asked

/-! ## A plan that does not come out -/

end Action

theorem Name.check_blaming (kind : Kind) (name : String) : Blaming (check kind name) := by
  unfold check
  split
  · exact .ok _
  · exact .error rfl

theorem Format.parse_blaming (text : String) : Blaming (parse text) := by
  unfold parse
  simp only
  repeat' split
  · exact .ok _
  · exact .ok _
  · exact .error rfl

namespace Arguments

theorem text?_blaming (arguments : Arguments) (name : String) : Blaming (arguments.text? name) := by
  unfold text?
  split
  · exact .ok _
  · exact .ok _
  · exact .error rfl

theorem text_blaming (arguments : Arguments) (name : String) : Blaming (arguments.text name) :=
  (arguments.text?_blaming name).bind fun found => by
    cases found with
    | none => exact .error rfl
    | some text => exact .ok _

theorem flag_blaming (arguments : Arguments) (name : String) : Blaming (arguments.flag name) := by
  unfold flag
  split
  · exact .ok _
  · exact .ok _
  · exact .error rfl

theorem format_blaming (arguments : Arguments) : Blaming arguments.format :=
  (arguments.text?_blaming _).bind fun found => by
    cases found with
    | none => exact .ok _
    | some name => exact Format.parse_blaming name

end Arguments

namespace Action

theorem databaseScope_blaming (arguments : Arguments) : Blaming (databaseScope arguments) :=
  (arguments.text_blaming _).bind fun _ => .ok _

theorem branchScope_blaming (arguments : Arguments) : Blaming (branchScope arguments) :=
  (databaseScope_blaming arguments).bind fun _ => (arguments.text_blaming _).bind fun _ => .ok _

theorem looseScope_blaming (arguments : Arguments) : Blaming (looseScope arguments) :=
  (databaseScope_blaming arguments).bind fun _ => (arguments.text?_blaming _).bind fun found => by
    cases found <;> exact .ok _

theorem checkedName_blaming (arguments : Arguments) (name : String) (kind : Name.Kind) :
    Blaming (checkedName arguments name kind) :=
  (arguments.text_blaming name).bind fun text => Name.check_blaming kind text

theorem readPlan_blaming {result : Except Error Scope} (blaming : Blaming result) (sql : String)
    (arguments : Arguments) : Blaming (readPlan result sql arguments) :=
  blaming.bind fun _ => arguments.format_blaming.bind fun _ => .ok _

theorem databasePlan_blaming (verb done : String) (arguments : Arguments) :
    Blaming (databasePlan verb done arguments) :=
  (checkedName_blaming arguments _ _).bind fun _ => .ok _

theorem tablePlan_blaming (procedure done : String) (arguments : Arguments) :
    Blaming (tablePlan procedure done arguments) :=
  (branchScope_blaming arguments).bind fun _ => (checkedName_blaming arguments _ _).bind fun _ =>
    .ok _

theorem allTablesPlan_blaming (procedure : String) (options : List String) (done : String)
    (arguments : Arguments) : Blaming (allTablesPlan procedure options done arguments) :=
  (branchScope_blaming arguments).bind fun _ => .ok _

/-- An error is found in the input, or it is why a classifier could not judge what a caller
brought. -/
def Unplanned (classify : Sql.Classifier) (arguments : Arguments) (action : Action) (e : Error) :
    Prop :=
  e.inInput = true ∨ exists kind sql, action.expects? = some kind ∧
    arguments.text Sql.statementArgument = .ok sql ∧ classify sql = .error e

theorem callerStatement_fails {kind : Sql.StatementKind} (asked : action.expects? = some kind) :
    FailsBy (Unplanned classify arguments action) (callerStatement classify arguments kind) := by
  intro e failed
  rw [callerStatement] at failed
  cases read : arguments.text Sql.statementArgument with
  | error e' =>
      rw [read] at failed
      cases failed
      exact Or.inl (arguments.text_blaming _ _ read)
  | ok sql =>
      cases judged : classify sql with
      | error e' =>
          simp only [read, Sql.Classifier.expect, judged, bind, Except.bind] at failed
          cases failed
          exact Or.inr ⟨kind, sql, asked, read, judged⟩
      | ok found =>
          simp only [read, Sql.Classifier.expect, judged, bind, Except.bind] at failed
          split at failed
          · rename_i e' refused
            split at refused
            · cases refused
            · cases refused
              cases failed
              exact Or.inl rfl
          · cases failed

/-- An action for which no plan comes out fails for what its caller gave, or because the classifier
failed. -/
theorem plan_fails (action : Action) :
    FailsBy (Unplanned classify arguments action) (action.plan classify arguments) := by
  have own : forall {α : Type} {result : Except Error α}, Blaming result ->
      FailsBy (Unplanned classify arguments action) result :=
    fun blaming => blaming.mono fun _ blamed => Or.inl blamed
  cases action with
  | query =>
      exact (own (looseScope_blaming arguments)).bind fun _ => (callerStatement_fails rfl).bind
        fun _ => (own arguments.format_blaming).bind fun _ => .ok _
  | exec =>
      exact (own (looseScope_blaming arguments)).bind fun _ => (callerStatement_fails rfl).bind
        fun _ => .ok _
  | listDatabases => exact own (arguments.format_blaming.bind fun _ => .ok _)
  | createDatabase => exact own (databasePlan_blaming _ _ arguments)
  | dropDatabase => exact own (databasePlan_blaming _ _ arguments)
  | selectActiveBranch =>
      exact own (readPlan_blaming (databaseScope_blaming arguments) _ arguments)
  | listBranches => exact own (readPlan_blaming (databaseScope_blaming arguments) _ arguments)
  | createBranch =>
      exact own ((databaseScope_blaming arguments).bind fun _ =>
        (checkedName_blaming arguments _ _).bind fun _ => (arguments.text?_blaming _).bind fun _ =>
        (arguments.flag_blaming _).bind fun _ =>
        (FailsBy.mapM_option (Name.check_blaming .branch) _).bind fun _ => .ok _)
  | deleteBranch =>
      exact own ((databaseScope_blaming arguments).bind fun _ =>
        (checkedName_blaming arguments _ _).bind fun _ => (arguments.flag_blaming _).bind fun _ =>
        .ok _)
  | mergeBranch =>
      exact own ((arguments.text_blaming _).bind fun _ => (arguments.text_blaming _).bind fun _ =>
        (Name.check_blaming _ _).bind fun _ => (databaseScope_blaming arguments).bind fun _ =>
        .ok _)
  | listCommits => exact own (readPlan_blaming (branchScope_blaming arguments) _ arguments)
  | createCommit =>
      exact own ((branchScope_blaming arguments).bind fun _ => (arguments.text_blaming _).bind
        fun _ => (arguments.flag_blaming _).bind fun _ => .ok _)
  | resetHard =>
      exact own ((branchScope_blaming arguments).bind fun _ => (arguments.text?_blaming _).bind
        fun _ => (FailsBy.mapM_option (Name.check_blaming .revision) _).bind fun _ => .ok _)
  | listWorkingSetChanges =>
      exact own (readPlan_blaming (branchScope_blaming arguments) _ arguments)
  | listTableChanges =>
      exact own ((branchScope_blaming arguments).bind fun _ => (arguments.text_blaming _).bind
        fun _ => (arguments.text?_blaming _).bind fun _ => (arguments.text?_blaming _).bind fun _ =>
        (Name.check_blaming _ _).bind fun _ => (Name.check_blaming _ _).bind fun _ =>
        (Name.check_blaming _ _).bind fun _ => arguments.format_blaming.bind fun _ => .ok _)
  | stageTable => exact own (tablePlan_blaming _ _ arguments)
  | stageAllTables => exact own (allTablesPlan_blaming _ _ _ arguments)
  | unstageTable => exact own (tablePlan_blaming _ _ arguments)
  | unstageAllTables => exact own (allTablesPlan_blaming _ _ _ arguments)
  | showTables => exact own (readPlan_blaming (looseScope_blaming arguments) _ arguments)
  | describeTable =>
      exact own ((looseScope_blaming arguments).bind fun _ =>
        (checkedName_blaming arguments _ _).bind fun _ => arguments.format_blaming.bind fun _ =>
        .ok _)

end Action
end ScopedSql
