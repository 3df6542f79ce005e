import ScopedSql.Proofs.Scripted.Reading

namespace ScopedSql

/-!
# What a scope becomes

A scope either has a fault in one of its names or becomes at most two
statements, the selection of the database before the checkout of the branch.  A
session reads out of each of them exactly the name that the scope holds.
-/

/-- One call that sets a part of a scope. -/
inductive Selection
  | database (name : String)
  | branch (name : String)
  deriving DecidableEq, Repr

namespace Selection

def apply (scope : Scope) : Selection -> Scope
  | .database name => scope.withDatabase name
  | .branch name => scope.withBranch name

/-- The database that a call sets. -/
def database? : Selection -> Option String
  | .database name => some name
  | .branch _ => none

/-- The branch that a call sets. -/
def branch? : Selection -> Option String
  | .database _ => none
  | .branch name => some name

end Selection

namespace Scope

/-- The scope that calls put together, one after the other. -/
def assemble (selections : List Selection) : Scope :=
  selections.foldl Selection.apply plain

/-- Of the calls that set a part, the last one counts, wherever the others stand. -/
theorem assemble_part {part : Scope -> Option String} {sets : Selection -> Option String}
    (applied : forall scope selection,
      part (selection.apply scope) = (sets selection).or (part scope))
    (unset : part plain = none) (selections : List Selection) :
    part (assemble selections) = (selections.filterMap sets).getLast? := by
  have fromScope : forall scope : Scope, part (selections.foldl Selection.apply scope) =
      (selections.filterMap sets).getLast?.or (part scope) := by
    induction selections with
    | nil => intro scope; rfl
    | cons selection rest inductionHypothesis =>
        intro scope
        rw [List.foldl_cons, inductionHypothesis, applied]
        cases set : sets selection with
        | none => rw [List.filterMap_cons_none set, Option.none_or]
        | some name =>
            rw [List.filterMap_cons_some set, List.getLast?_cons, Option.some_or]
            cases (rest.filterMap sets).getLast? <;> rfl
  rw [assemble, fromScope plain, unset, Option.or_none]

theorem assemble_database (selections : List Selection) :
    (assemble selections).database? = (selections.filterMap Selection.database?).getLast? :=
  assemble_part (fun _ selection => by cases selection <;> rfl) rfl selections

theorem assemble_branch (selections : List Selection) :
    (assemble selections).branch? = (selections.filterMap Selection.branch?).getLast? :=
  assemble_part (fun _ selection => by cases selection <;> rfl) rfl selections

/-! ## Faults and statements -/

def databaseFault? (scope : Scope) : Option Error :=
  match scope.database? with
  | none => none
  | some name =>
    if Name.Kind.database.accepts name.toList then none
    else some (if Text.blank name then .noDatabase else .invalidName .database name)

def branchFault? (scope : Scope) : Option Error :=
  match scope.branch? with
  | none => none
  | some name =>
    if Name.Kind.branch.accepts name.toList then none else some (.invalidName .branch name)

/-- The first fault in the names of a scope. -/
def fault? (scope : Scope) : Option Error :=
  scope.databaseFault?.or scope.branchFault?

/-- All names of a scope have the shape of their kind. -/
structure Valid (scope : Scope) : Prop where
  database : forall name, scope.database? = some name ->
    Name.Kind.database.accepts name.toList = true
  branch : forall name, scope.branch? = some name -> Name.Kind.branch.accepts name.toList = true

/-- A fault is an error for a name, found before anything is sent. -/
theorem fault?_eq_some {scope : Scope} {e : Error} (fault : scope.fault? = some e) :
    e = .noDatabase ∨ exists kind name, e = .invalidName kind name := by
  rw [fault?, Option.or_eq_some_iff] at fault
  rcases fault with fault | ⟨_, fault⟩
  · unfold databaseFault? at fault
    repeat' split at fault
    all_goals cases fault
    · exact Or.inl rfl
    · exact Or.inr ⟨_, _, rfl⟩
  · unfold branchFault? at fault
    repeat' split at fault
    all_goals cases fault
    exact Or.inr ⟨_, _, rfl⟩

def useStatement (name : String) : String :=
  "USE " ++ Sql.quoteIdentifier name ++ ";"

def checkoutStatement (name : String) : String :=
  Sql.callProcedure "DOLT_CHECKOUT" [name]

/-- The statements for the parts that a scope has. -/
def positions (scope : Scope) : List String :=
  (scope.database?.map useStatement).toList ++ (scope.branch?.map checkoutStatement).toList

theorem not_blank_of_accepts {kind : Name.Kind} {name : String}
    (accepted : kind.accepts name.toList = true) : Text.blank name = false := by
  rcases List.exists_cons_of_ne_nil (Name.Kind.ne_nil_of_accepts accepted) with ⟨first, rest, split⟩
  have word : Name.isWordChar first = true := by
    rw [split] at accepted
    simp only [Name.Kind.accepts, Bool.and_eq_true] at accepted
    exact accepted.1.1.1.1
  rw [Text.blank, split, List.all_cons, Name.isBlank_eq_false_of_isWordChar word, Bool.false_and]

/-- The step of the database is refused for its fault, and else there is one if a name is given. -/
theorem databaseStep_eq (scope : Scope) : scope.databaseStep =
    match scope.databaseFault? with
    | some e => .error e
    | none => .ok (scope.database?.map Step.useDatabase).toList := by
  rcases scope with ⟨_ | name, branch⟩
  · rfl
  · by_cases accepted : Name.Kind.database.accepts name.toList = true
    · simp [databaseStep, databaseFault?, Name.check, accepted, not_blank_of_accepts accepted,
        Except.map]
    · by_cases blank : Text.blank name = true <;>
        simp [databaseStep, databaseFault?, Name.check, accepted, blank, Except.map]

/-- The step of the branch is refused for its fault, and else there is one if a name is given. -/
theorem branchStep_eq (scope : Scope) : scope.branchStep =
    match scope.branchFault? with
    | some e => .error e
    | none => .ok (scope.branch?.map Step.checkoutBranch).toList := by
  rcases scope with ⟨database, _ | name⟩
  · rfl
  · by_cases accepted : Name.Kind.branch.accepts name.toList = true <;>
      simp [branchStep, branchFault?, Name.check, accepted, Except.map]

theorem databaseFault?_eq_none {scope : Scope} {name : String} (given : scope.database? = some name)
    (sound : scope.databaseFault? = none) : Name.Kind.database.accepts name.toList = true := by
  cases accepted : Name.Kind.database.accepts name.toList with
  | true => rfl
  | false => simp [databaseFault?, given, accepted] at sound

theorem branchFault?_eq_none {scope : Scope} {name : String} (given : scope.branch? = some name)
    (sound : scope.branchFault? = none) : Name.Kind.branch.accepts name.toList = true := by
  cases accepted : Name.Kind.branch.accepts name.toList with
  | true => rfl
  | false => simp [branchFault?, given, accepted] at sound

/-- A scope has no fault exactly if all its names have the right shape. -/
theorem fault?_eq_none_iff {scope : Scope} : scope.fault? = none ↔ scope.Valid := by
  rw [fault?, Option.or_eq_none_iff]
  constructor
  · rintro ⟨databaseSound, branchSound⟩
    exact ⟨fun _ given => databaseFault?_eq_none given databaseSound,
      fun _ given => branchFault?_eq_none given branchSound⟩
  · intro valid
    constructor
    · cases given : scope.database? with
      | none => simp [databaseFault?, given]
      | some name => simp [databaseFault?, given, valid.database name given]
    · cases given : scope.branch? with
      | none => simp [branchFault?, given]
      | some name => simp [branchFault?, given, valid.branch name given]

/-- A scope is refused for its first fault and else becomes its statements. -/
theorem statements_eq (scope : Scope) : scope.statements =
    match scope.fault? with
    | some e => .error e
    | none => .ok scope.positions := by
  cases databaseFault : scope.databaseFault? with
  | some e => simp [statements, steps, databaseStep_eq, fault?, databaseFault, bind, Except.bind]
  | none =>
      cases branchFault : scope.branchFault? with
      | some e =>
          simp [statements, steps, databaseStep_eq, branchStep_eq, fault?, databaseFault,
            branchFault, bind, Except.bind]
      | none =>
          have useSql : forall name, scope.database? = some name ->
              (Step.useDatabase name).sql = .ok (useStatement name) := by
            intro name given
            simp [Step.sql, Name.check, databaseFault?_eq_none given databaseFault, Except.map,
              useStatement]
          have checkoutSql : forall name, scope.branch? = some name ->
              (Step.checkoutBranch name).sql = .ok (checkoutStatement name) := by
            intro name given
            simp [Step.sql, Name.check, branchFault?_eq_none given branchFault, Except.map,
              checkoutStatement]
          cases database : scope.database? <;> cases branch : scope.branch? <;>
            simp_all [statements, steps, databaseStep_eq, branchStep_eq, fault?, positions, bind,
              Except.bind, pure, Except.pure]

theorem statements_eq_ok_iff {scope : Scope} {sqls : List String} :
    scope.statements = .ok sqls ↔ scope.fault? = none ∧ sqls = scope.positions := by
  rw [statements_eq]
  cases scope.fault? with
  | none => simp [eq_comm]
  | some e => simp

/-- What a session reads in the statements of a scope without a fault. -/
theorem read_of_mem_positions {scope : Scope} {sql : String} (sound : scope.fault? = none)
    (member : sql ∈ scope.positions) :
    (exists name, scope.database? = some name ∧ Scripted.Control.read sql = .use name) ∨
      (exists name, scope.branch? = some name ∧ Scripted.Control.read sql = .checkout name) := by
  rcases Option.or_eq_none_iff.mp sound with ⟨databaseSound, branchSound⟩
  rw [positions, List.mem_append, Option.mem_toList, Option.mem_toList] at member
  rcases member with member | member
  · rcases Option.map_eq_some_iff.mp member with ⟨name, given, rfl⟩
    exact Or.inl ⟨name, given, Scripted.read_use (databaseFault?_eq_none given databaseSound)⟩
  · rcases Option.map_eq_some_iff.mp member with ⟨name, given, rfl⟩
    exact Or.inr ⟨name, given, Scripted.read_checkout (branchFault?_eq_none given branchSound)⟩

end Scope
end ScopedSql
