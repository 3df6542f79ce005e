import Mathlib.Data.List.Forall2
import Mathlib.Data.List.Nodup
import ScopedSql.Proofs.Action.Needs
import ScopedSql.Proofs.Sql.Tokens

namespace ScopedSql

open Sql

/-!
# The form of statements

The statement of an action has a form.  It is fixed by the action, by which
arguments are given and by which flags are set.  Whatever a caller writes fills a
quoted token of that form and is read back out of it as it was written.  In a call
it is no option either, unless it is the message of a commit.
-/

namespace Arguments

/-- Is a text given under a name? -/
def isGiven (arguments : Arguments) (name : String) : Bool :=
  (arguments.given? name).isSome

/-- Is the flag of a name set? -/
def isSet (arguments : Arguments) (name : String) : Bool :=
  (arguments.flag name).toOption.getD false

variable {arguments : Arguments} {name : String}

theorem isGiven_of_text? {found : Option String} (read : arguments.text? name = .ok found) :
    arguments.isGiven name = found.isSome := by
  rw [isGiven, given?_of_text? read]

theorem isSet_of_flag {on : Bool} (read : arguments.flag name = .ok on) :
    arguments.isSet name = on := by
  rw [isSet, read]
  rfl

theorem value?_of_some {text : String} (read : arguments.text? name = .ok (some text)) :
    arguments.value? name = some (.text text) := by
  rcases value?_of_text? read with ⟨absent, _⟩ | ⟨_, ⟨⟩, given, _⟩
  · cases absent
  · exact given

end Arguments

/-! ## Forms -/

/-- The argument that may begin with a dash. -/
def messageArgument : String := "message"

/-- A place in a form. -/
inductive Slot
  | fixed (token : Token)
  /-- The text of an argument, as a string. -/
  | text (argument : String)
  /-- The text of an argument, as a quoted name. -/
  | identifier (argument : String)
  deriving DecidableEq, Repr

namespace Slot

/-- The argument that fills a place. -/
def argument? : Slot -> Option String
  | fixed _ => none
  | text argument => some argument
  | identifier argument => some argument

/-- A token stands in a place.  An argument stands there as it was given, and only a message may
look like an option. -/
inductive Holds (arguments : Arguments) : Slot -> Token -> Prop
  | fixed (token : Token) : Holds arguments (.fixed token) token
  | text {argument content : String} (given : arguments.value? argument = some (.text content))
      (noOption : argument ≠ messageArgument -> content.toList.head? ≠ some '-') :
      Holds arguments (.text argument) (.text content)
  | identifier {argument content : String}
      (given : arguments.value? argument = some (.text content)) :
      Holds arguments (.identifier argument) (.name content)

/-- A function or a procedure, with its arguments, at the end of a statement. -/
def applied (function : String) (slots : List Slot) : List Slot :=
  fixed (.word function) :: fixed (.symbol '(') ::
    (slots.intersperse (fixed (.symbol ',')) ++ [fixed (.symbol ')'), fixed (.symbol ';')])

def call (procedure : String) (slots : List Slot) : List Slot :=
  fixed (.word "CALL") :: applied procedure slots

def option (text : String) : Slot :=
  fixed (.text text)

/-- All rows of a table. -/
def report (table : String) : List Slot :=
  [.word "SELECT", .symbol '*', .word "FROM", .word table, .symbol ';'].map fixed

/-- The argument of a name if it is given, and else a fixed text. -/
def textOr (given : String -> Bool) (argument default' : String) : Slot :=
  if given argument then text argument else option default'

end Slot

namespace Action

open Slot

/-- The form of the statement of an action, by what is given and what is set.  A statement that a
caller brings has none. -/
def form (given set : String -> Bool) : Action -> List Slot
  | .query | .exec => []
  | .listDatabases => [.word "SHOW", .word "DATABASES", .symbol ';'].map fixed
  | .createDatabase => [fixed (.word "CREATE"), fixed (.word "DATABASE"),
      identifier databaseArgument, fixed (.symbol ';')]
  | .dropDatabase => [fixed (.word "DROP"), fixed (.word "DATABASE"),
      identifier databaseArgument, fixed (.symbol ';')]
  | .selectActiveBranch => fixed (.word "SELECT") :: applied "active_branch" []
  | .listBranches => report "dolt_branches"
  | .createBranch => call "DOLT_BRANCH" ((if set "force" then [option "-f"] else []) ++
      (if given "original_branch" then [option "-c", text "original_branch"] else []) ++
      [text "new_branch"])
  | .deleteBranch => call "DOLT_BRANCH" [option (if set "force" then "-D" else "-d"),
      text branchArgument]
  | .mergeBranch => call "DOLT_MERGE" [text "source_branch"]
  | .listCommits => report "dolt_log"
  | .createCommit => call "DOLT_COMMIT" [option (if set "add_all" then "-Am" else "-m"),
      text messageArgument]
  | .resetHard => call "DOLT_RESET" (option "--hard" ::
      if given "revision" then [text "revision"] else [])
  | .listWorkingSetChanges => report "dolt_status"
  | .listTableChanges => [.word "SELECT", .symbol '*', .word "FROM"].map fixed ++
      applied "DOLT_DIFF" [textOr given "from_revision" "HEAD",
        textOr given "to_revision" "WORKING", text tableArgument]
  | .stageTable => call "DOLT_ADD" [text tableArgument]
  | .stageAllTables => call "DOLT_ADD" [option "-A"]
  | .unstageTable => call "DOLT_RESET" [text tableArgument]
  | .unstageAllTables => call "DOLT_RESET" []
  | .showTables => [.word "SHOW", .word "TABLES", .symbol ';'].map fixed
  | .describeTable => [fixed (.word "DESCRIBE"), identifier tableArgument, fixed (.symbol ';')]

/-- No argument fills two places of a form. -/
theorem form_nodup (given set : String -> Bool) (action : Action) :
    ((action.form given set).filterMap Slot.argument?).Nodup := by
  cases action with
  | createBranch =>
      cases force : set "force" <;> cases copies : given "original_branch" <;>
        · simp only [form, force, copies]
          decide
  | resetHard =>
      cases revision : given "revision" <;>
        · simp only [form, revision]
          decide
  | listTableChanges =>
      cases first : given "from_revision" <;> cases last : given "to_revision" <;>
        · simp only [form, textOr, first, last]
          decide
  | _ => first | exact List.nodup_nil | exact List.nodup_singleton _

end Action

/-! ## Statements of a form -/

/-- A statement has a form, filled with what is given. -/
def Spells (arguments : Arguments) (form : List Slot) (sql : String) : Prop :=
  exists found, tokens sql.toList = some found ∧ List.Forall₂ (Slot.Holds arguments) form found

variable {arguments : Arguments} {name : String}

/-- No name looks like an option. -/
theorem Name.Kind.noOption {kind : Name.Kind} {name : String}
    (accepted : kind.accepts name.toList = true) : name.toList.head? ≠ some '-' := by
  cases text : name.toList with
  | nil => simp
  | cons first rest =>
      rw [text] at accepted
      simp only [accepts, Bool.and_eq_true] at accepted
      rintro ⟨⟩
      exact absurd accepted.1.1.1.1 (by decide)

namespace Slot

theorem holds_fixed (tokens : List Token) :
    List.Forall₂ (Holds arguments) (tokens.map fixed) tokens := by
  induction tokens with
  | nil => exact .nil
  | cons token rest inductionHypothesis => exact .cons (.fixed token) inductionHypothesis

theorem holds_checked {kind : Name.Kind} {content : String}
    (read : arguments.text? name = .ok (some content))
    (accepted : kind.accepts content.toList = true) :
    Holds arguments (.text name) (.text content) :=
  .text (Arguments.value?_of_some read) fun _ => Name.Kind.noOption accepted

theorem holds_checkedName {kind : Name.Kind} {content : String}
    (found : Action.checkedName arguments name kind = .ok content) :
    Holds arguments (.text name) (.text content) ∧
      Holds arguments (.identifier name) (.name content) := by
  simp only [Action.checkedName, bind_eq_ok, Name.check_eq_ok_iff] at found
  rcases found with ⟨text, read, accepted, rfl⟩
  have given := Arguments.text_eq_ok.mp read
  exact ⟨holds_checked given accepted, .identifier (Arguments.value?_of_some given)⟩

/-- A name with a default stands in its place, whether or not it was given. -/
theorem holds_textOr {kind : Name.Kind} {given : Option String} {default' content : String}
    (read : arguments.text? name = .ok given)
    (checked : Name.check kind (given.getD default') = .ok content) :
    Holds arguments (textOr arguments.isGiven name default') (.text content) := by
  rcases Name.check_eq_ok_iff.mp checked with ⟨accepted, rfl⟩
  rw [textOr, Arguments.isGiven_of_text? read]
  cases given with
  | none => exact .fixed _
  | some content => exact holds_checked read accepted

/-- Separators go between the places as they go between the tokens. -/
theorem holds_intersperse {slot : Slot} {token : Token} (between : Holds arguments slot token)
    {slots : List Slot} {found : List Token} (holds : List.Forall₂ (Holds arguments) slots found) :
    List.Forall₂ (Holds arguments) (slots.intersperse slot) (found.intersperse token) := by
  induction holds with
  | nil => exact .nil
  | cons first rest inductionHypothesis =>
      cases rest with
      | nil => exact .cons first .nil
      | cons _ _ => exact .cons first (.cons between inductionHypothesis)

theorem holds_applied (function : String) {slots : List Slot} {texts : List String}
    (holds : List.Forall₂ (Holds arguments) slots (texts.map Token.text)) :
    List.Forall₂ (Holds arguments) (applied function slots) (Sql.applied function texts) :=
  .cons (.fixed _) (.cons (.fixed _) (List.rel_append (holds_intersperse (.fixed _) holds)
    (holds_fixed [.symbol ')', .symbol ';'])))

theorem spells_call {procedure : String} (known : procedure ∈ changingProcedures)
    {slots : List Slot} {texts : List String}
    (holds : List.Forall₂ (Holds arguments) slots (texts.map Token.text)) :
    Spells arguments (call procedure slots) (callProcedure procedure texts) := by
  have sound : IsWord procedure := by
    simp only [changingProcedures, List.mem_cons, List.not_mem_nil, or_false] at known
    rcases known with rfl | rfl | rfl | rfl | rfl <;> decide
  exact ⟨_, tokens_callProcedure sound texts, .cons (.fixed _) (holds_applied procedure holds)⟩

end Slot

namespace Action

open Slot

variable {classify : Sql.Classifier} {plan : Plan}

theorem readPlan_spells {result : Except Error Scope} {form : List Slot} {sql : String}
    (made : readPlan result sql arguments = .ok plan) (spells : Spells arguments form sql) :
    Spells arguments form plan.sql := by
  simp only [readPlan, bind_eq_ok, pure_eq_ok] at made
  rcases made with ⟨scope, _, format, _, rfl⟩
  exact spells

theorem databasePlan_spells {verb done : String}
    (made : databasePlan verb done arguments = .ok plan) (known : verb ∈ ["CREATE", "DROP"]) :
    Spells arguments [fixed (.word verb), fixed (.word "DATABASE"), identifier databaseArgument,
      fixed (.symbol ';')] plan.sql := by
  simp only [databasePlan, bind_eq_ok, pure_eq_ok] at made
  rcases made with ⟨name, named, rfl⟩
  have sound : IsWord verb := by
    simp only [List.mem_cons, List.not_mem_nil, or_false] at known
    rcases known with rfl | rfl <;> decide
  have text : (verb ++ " DATABASE " ++ quoteIdentifier name ++ ";").toList = verb.toList ++ ' ' ::
      ("DATABASE".toList ++ ' ' :: ((quoteIdentifier name).toList ++ [';'])) := by
    simp
  refine ⟨[.word verb, .word "DATABASE", .name name, .symbol ';'], ?_,
    .cons (.fixed _) (.cons (.fixed _) (.cons (holds_checkedName named).2 (.cons (.fixed _) .nil)))⟩
  simp only [Plan.sql]
  rw [text, tokens_word sound (breaks_space _), tokens_space, tokens_keyword_name (by decide)]
  rfl

theorem tablePlan_spells {procedure done : String}
    (made : tablePlan procedure done arguments = .ok plan)
    (known : procedure ∈ changingProcedures) :
    Spells arguments (call procedure [text tableArgument]) plan.sql := by
  simp only [tablePlan, bind_eq_ok, pure_eq_ok] at made
  rcases made with ⟨scope, _, table, named, rfl⟩
  have holds : List.Forall₂ (Holds arguments) [text tableArgument] ([table].map Token.text) :=
    .cons (holds_checkedName named).1 .nil
  exact spells_call known holds

theorem allTablesPlan_spells {procedure done : String} {options : List String}
    (made : allTablesPlan procedure options done arguments = .ok plan)
    (known : procedure ∈ changingProcedures) :
    Spells arguments (call procedure (options.map option)) plan.sql := by
  simp only [allTablesPlan, bind_eq_ok, pure_eq_ok] at made
  rcases made with ⟨scope, _, rfl⟩
  have holds : List.Forall₂ (Holds arguments) ((options.map Token.text).map fixed)
      (options.map Token.text) := holds_fixed _
  rw [List.map_map] at holds
  exact spells_call known holds

theorem createBranchPlan_spells (made : createBranchPlan arguments = .ok plan) :
    Spells arguments (createBranch.form arguments.isGiven arguments.isSet) plan.sql := by
  simp only [createBranchPlan, bind_eq_ok, pure_eq_ok, Name.checkOption_eq_ok] at made
  rcases made with ⟨scope, _, branch, named, source, copies, force, forced, copied,
    ⟨rfl, accepted⟩, rfl⟩
  have optional : List.Forall₂ (Holds arguments)
      (if arguments.isGiven "original_branch" then [option "-c", text "original_branch"] else [])
      (((copied.map (fun name => ["-c", name])).getD []).map Token.text) := by
    rw [Arguments.isGiven_of_text? copies]
    cases copied with
    | none => exact .nil
    | some name => exact .cons (.fixed _) (.cons (holds_checked copies (accepted name rfl)) .nil)
  have forcing : List.Forall₂ (Holds arguments)
      (if arguments.isSet "force" then [option "-f"] else [])
      ((if force then ["-f"] else []).map Token.text) := by
    rw [Arguments.isSet_of_flag forced]
    cases force with
    | false => exact .nil
    | true => exact .cons (.fixed _) .nil
  refine spells_call (by decide) ?_
  rw [List.map_append, List.map_append]
  exact List.rel_append (List.rel_append forcing optional) (.cons (holds_checkedName named).1 .nil)

theorem tableChangesPlan_spells (made : tableChangesPlan arguments = .ok plan) :
    Spells arguments (listTableChanges.form arguments.isGiven arguments.isSet) plan.sql := by
  simp only [tableChangesPlan, bind_eq_ok, pure_eq_ok] at made
  rcases made with ⟨scope, _, _, named, from?, readFrom, to?, readTo, first, checkedFrom, last,
    checkedTo, table, checkedTable, format, _, rfl⟩
  rcases Name.check_eq_ok_iff.mp checkedTable with ⟨accepted, rfl⟩
  have text : ("SELECT * FROM DOLT_DIFF(" ++
      String.intercalate ", " ([first, last, table].map quoteLiteral) ++ ");").toList =
      "SELECT".toList ++ ' ' :: '*' :: ' ' :: ("FROM".toList ++ ' ' ::
        ("DOLT_DIFF".toList ++ '(' ::
          ((String.intercalate ", " ([first, last, table].map quoteLiteral)).toList ++
            [')', ';']))) := by
    simp
  have holds : List.Forall₂ (Holds arguments)
      [textOr arguments.isGiven "from_revision" "HEAD",
        textOr arguments.isGiven "to_revision" "WORKING", Slot.text tableArgument]
      ([first, last, table].map Token.text) :=
    .cons (holds_textOr readFrom checkedFrom) (.cons (holds_textOr readTo checkedTo)
      (.cons (holds_checked (Arguments.text_eq_ok.mp named) accepted) .nil))
  refine ⟨.word "SELECT" :: .symbol '*' :: .word "FROM" ::
    Sql.applied "DOLT_DIFF" [first, last, table], ?_,
    .cons (.fixed _) (.cons (.fixed _) (.cons (.fixed _) (holds_applied "DOLT_DIFF" holds)))⟩
  simp only [Plan.sql]
  rw [text, tokens_word (by decide) (breaks_space _), tokens_space, tokens_mark (by decide),
    tokens_space, tokens_word (by decide) (breaks_space _), tokens_space,
    tokens_applied (by decide)]
  rfl

theorem deleteBranchPlan_spells (made : deleteBranchPlan arguments = .ok plan) :
    Spells arguments (deleteBranch.form arguments.isGiven arguments.isSet) plan.sql := by
  simp only [deleteBranchPlan, bind_eq_ok, pure_eq_ok] at made
  rcases made with ⟨scope, _, branch, named, force, forced, rfl⟩
  rw [form, Arguments.isSet_of_flag forced]
  have holds : List.Forall₂ (Holds arguments)
      [option (if force then "-D" else "-d"), text branchArgument]
      ([if force then "-D" else "-d", branch].map Token.text) :=
    .cons (.fixed _) (.cons (holds_checkedName named).1 .nil)
  exact spells_call (by decide) holds

theorem mergeBranchPlan_spells (made : mergeBranchPlan arguments = .ok plan) :
    Spells arguments (mergeBranch.form arguments.isGiven arguments.isSet) plan.sql := by
  simp only [mergeBranchPlan, bind_eq_ok, pure_eq_ok, Name.check_eq_ok_iff] at made
  rcases made with ⟨_, merged, destination, _, source, ⟨accepted, rfl⟩, scope, _, rfl⟩
  have holds : List.Forall₂ (Holds arguments) [text "source_branch"] ([source].map Token.text) :=
    .cons (holds_checked (Arguments.text_eq_ok.mp merged) accepted) .nil
  exact spells_call (by decide) holds

/-- A message goes through no check, so only quoting keeps it together. -/
theorem createCommitPlan_spells (made : createCommitPlan arguments = .ok plan) :
    Spells arguments (createCommit.form arguments.isGiven arguments.isSet) plan.sql := by
  simp only [createCommitPlan, bind_eq_ok, pure_eq_ok] at made
  rcases made with ⟨scope, _, message, said, all, added, rfl⟩
  rw [form, Arguments.isSet_of_flag added]
  have given := Arguments.value?_of_some (Arguments.text_eq_ok.mp said)
  have holds : List.Forall₂ (Holds arguments)
      [option (if all then "-Am" else "-m"), text messageArgument]
      ([if all then "-Am" else "-m", message].map Token.text) :=
    .cons (.fixed _) (.cons (.text given fun other => absurd rfl other) .nil)
  exact spells_call (by decide) holds

theorem resetHardPlan_spells (made : resetHardPlan arguments = .ok plan) :
    Spells arguments (resetHard.form arguments.isGiven arguments.isSet) plan.sql := by
  simp only [resetHardPlan, bind_eq_ok, pure_eq_ok, Name.checkOption_eq_ok] at made
  rcases made with ⟨scope, _, _, read, revision, ⟨rfl, accepted⟩, rfl⟩
  rw [form, Arguments.isGiven_of_text? read]
  have holds : List.Forall₂ (Holds arguments)
      (option "--hard" :: if revision.isSome then [text "revision"] else [])
      (("--hard" :: revision.toList).map Token.text) := by
    cases revision with
    | none => exact .cons (.fixed _) .nil
    | some name => exact .cons (.fixed _) (.cons (holds_checked read (accepted name rfl)) .nil)
  exact spells_call (by decide) holds

/-- The table that is described is quoted as a name. -/
theorem describeTablePlan_spells (made : describeTable.plan classify arguments = .ok plan) :
    Spells arguments (describeTable.form arguments.isGiven arguments.isSet) plan.sql := by
  simp only [Action.plan, bind_eq_ok, pure_eq_ok] at made
  rcases made with ⟨scope, _, table, named, format, _, rfl⟩
  refine ⟨[.word "DESCRIBE", .name table, .symbol ';'], ?_,
    .cons (.fixed _) (.cons (holds_checkedName named).2 (.cons (.fixed _) .nil))⟩
  have text : ("DESCRIBE " ++ quoteIdentifier table ++ ";").toList =
      "DESCRIBE".toList ++ ' ' :: ((quoteIdentifier table).toList ++ [';']) := by
    simp
  rw [Plan.sql, text, tokens_keyword_name (by decide)]

/-- A statement into which nothing of the arguments goes. -/
theorem spells_fixed {sql : String} {found : List Token} (read : tokens sql.toList = some found) :
    Spells arguments (found.map fixed) sql :=
  ⟨found, read, holds_fixed found⟩

/-- The statement of an action has the form of the action, filled with what is given. -/
theorem plan_spells (action : Action) (own : action ≠ .query ∧ action ≠ .exec)
    (made : action.plan classify arguments = .ok plan) :
    Spells arguments (action.form arguments.isGiven arguments.isSet) plan.sql := by
  cases action with
  | query => exact absurd rfl own.1
  | exec => exact absurd rfl own.2
  | listDatabases =>
      simp only [Action.plan, bind_eq_ok, pure_eq_ok] at made
      rcases made with ⟨format, _, rfl⟩
      have found : tokens "SHOW DATABASES;".toList =
          some [.word "SHOW", .word "DATABASES", .symbol ';'] := by decide +kernel
      exact spells_fixed found
  | createDatabase => exact databasePlan_spells made (by simp)
  | dropDatabase => exact databasePlan_spells made (by simp)
  | selectActiveBranch =>
      have found : tokens "SELECT active_branch();".toList =
          some (.word "SELECT" :: Sql.applied "active_branch" []) := by decide +kernel
      exact readPlan_spells made (spells_fixed found)
  | listBranches => exact readPlan_spells made (spells_fixed (by decide +kernel))
  | createBranch => exact createBranchPlan_spells made
  | deleteBranch => exact deleteBranchPlan_spells made
  | mergeBranch => exact mergeBranchPlan_spells made
  | listCommits => exact readPlan_spells made (spells_fixed (by decide +kernel))
  | createCommit => exact createCommitPlan_spells made
  | resetHard => exact resetHardPlan_spells made
  | listWorkingSetChanges => exact readPlan_spells made (spells_fixed (by decide +kernel))
  | listTableChanges => exact tableChangesPlan_spells made
  | stageTable => exact tablePlan_spells made (by decide)
  | stageAllTables => exact allTablesPlan_spells made (by decide)
  | unstageTable => exact tablePlan_spells made (by decide)
  | unstageAllTables => exact allTablesPlan_spells made (by decide)
  | showTables => exact readPlan_spells made (spells_fixed (by decide +kernel))
  | describeTable => exact describeTablePlan_spells made

end Action

/-! ## Steps -/

namespace Step

/-- The name of the place to which a step leads. -/
def target : Step -> String
  | useDatabase name => name
  | checkoutBranch name => name

/-- The tokens of the statement of a step. -/
def tokens : Step -> List Token
  | useDatabase name => [.word "USE", .name name, .symbol ';']
  | checkoutBranch name => .word "CALL" :: Sql.applied "DOLT_CHECKOUT" [name]

theorem sql_eq_ok {step : Step} {sql : String} (made : step.sql = .ok sql) :
    Sql.tokens sql.toList = some step.tokens ∧ step.target.toList.head? ≠ some '-' := by
  cases step with
  | useDatabase name =>
      simp only [Step.sql, map_eq_ok, Name.check_eq_ok_iff] at made
      rcases made with ⟨name, ⟨accepted, rfl⟩, rfl⟩
      refine ⟨?_, Name.Kind.noOption accepted⟩
      have text : ("USE " ++ quoteIdentifier name ++ ";").toList =
          "USE".toList ++ ' ' :: ((quoteIdentifier name).toList ++ [';']) := by
        simp
      rw [text, tokens_keyword_name (by decide)]
      rfl
  | checkoutBranch name =>
      simp only [Step.sql, map_eq_ok, Name.check_eq_ok_iff] at made
      rcases made with ⟨name, ⟨accepted, rfl⟩, rfl⟩
      exact ⟨tokens_callProcedure (by decide) [name], Name.Kind.noOption accepted⟩

end Step

/-! ## No injection -/

/-- The statement of an action that brings its own has a form that nothing in the arguments can
change: what a caller writes fills one quoted token each and is no option, save for a message.  The
same holds for the steps by which a session is put in its place. -/
theorem statements_keep_their_form :
    (forall classify arguments action plan, action ≠ .query ∧ action ≠ .exec ->
      Action.plan classify arguments action = .ok plan ->
      Spells arguments (action.form arguments.isGiven arguments.isSet) plan.sql) ∧
    (forall given set action, ((Action.form given set action).filterMap Slot.argument?).Nodup) ∧
    forall step sql, Step.sql step = .ok sql ->
      tokens sql.toList = some step.tokens ∧ step.target.toList.head? ≠ some '-' :=
  ⟨fun _ _ action _ own made => action.plan_spells own made, Action.form_nodup,
    fun _ _ made => Step.sql_eq_ok made⟩

/-- A message that would like to end the call and begin another statement stays a message. -/
theorem form_of_hostile_message :
    let arguments : Arguments := ⟨[("database", .text "shop"), ("branch", .text "main"),
      ("message", .text "'); DROP TABLE t; -- \\")]⟩
    exists plan, Action.createCommit.plan Classifier.byKeyword arguments = .ok plan ∧
      plan.sql = "CALL DOLT_COMMIT('-m', '''); DROP TABLE t; -- \\\\');" ∧
      Spells arguments (Slot.call "DOLT_COMMIT" [.option "-m", .text "message"]) plan.sql := by
  intro arguments
  have own : Action.createCommit ≠ .query ∧ Action.createCommit ≠ .exec := by decide
  exact ⟨_, rfl, by decide, statements_keep_their_form.1 Classifier.byKeyword arguments
    .createCommit _ own rfl⟩

end ScopedSql
