import ScopedSql.Proofs.Desk.Record
import ScopedSql.Proofs.Scripted.Reading

namespace ScopedSql

open Scripted Text

/-!
# The statements of actions

The statement of an action begins with a verb of its own, so that no session
takes it for one that begins or ends a transaction.  Only the two actions that
run what a caller brings depend on the caller for that.
-/

/-! ## What a verb tells -/

/-- A statement that is none of the four words neither begins nor ends a transaction. -/
theorem plain_of_words {sql : String}
    (differs : forall word, word ∈ ["START TRANSACTION", "BEGIN", "COMMIT", "ROLLBACK"] ->
      String.ofList ((bare sql.toList).map Char.toUpper) ≠ word) :
    Plain sql := by
  have start := differs "START TRANSACTION" (by simp)
  have begin := differs "BEGIN" (by simp)
  have commit := differs "COMMIT" (by simp)
  have rollback := differs "ROLLBACK" (by simp)
  obtain ⟨control, read⟩ : exists control, Control.read sql = control := ⟨_, rfl⟩
  have moves : (exists name, control = .use name) ∨ (exists name, control = .checkout name) ∨
      control = .work := by
    simp only [Control.read] at read
    rw [if_neg (not_or.mpr ⟨start, begin⟩), if_neg commit, if_neg rollback] at read
    split at read
    · exact Or.inl ⟨_, read.symm⟩
    · split at read
      · exact Or.inr (Or.inl ⟨_, read.symm⟩)
      · exact Or.inr (Or.inr read.symm)
  rcases moves with ⟨name, rfl⟩ | ⟨name, rfl⟩ | rfl
  · exact ⟨by simp [read], by simp [read], by simp [read]⟩
  · exact ⟨by simp [read], by simp [read], by simp [read]⟩
  · exact ⟨by simp [read], by simp [read], by simp [read]⟩

/-- A statement that begins with a verb still does so without what stands around it. -/
theorem bare_of_verb (first : Char) (middle : List Char) (last : Char) {sql : String}
    {rest : List Char} (text : sql.toList = first :: middle ++ last :: rest)
    (firstInk : isBlank first = false) (lastInk : isBlank last = false) (lastPlain : last ≠ ';') :
    exists rest', bare sql.toList = (first :: middle ++ [last]) ++ rest' := by
  have trims : forall rest, exists rest',
      trimmed (first :: middle ++ last :: rest) = first :: middle ++ last :: rest' := by
    intro rest
    rw [trimmed, strip, List.cons_append,
      List.dropWhile_cons_of_neg (by rw [firstInk]; exact Bool.false_ne_true)]
    exact ⟨_, dropEndWhile_append_of_stays isBlank lastInk (first :: middle) rest⟩
  rcases trims rest with ⟨rest1, trim1⟩
  have cut := dropEndWhile_append_of_stays (fun c => c = ';') (decide_eq_false lastPlain)
    (first :: middle) rest1
  rcases trims (dropEndWhile (fun c => c = ';') rest1) with ⟨rest2, trim2⟩
  refine ⟨rest2, ?_⟩
  rw [bare, text, trim1, cut, trim2, List.append_assoc, List.singleton_append]

/-- A statement that begins with another verb neither begins nor ends a transaction. -/
theorem plain_of_verb (first : Char) (middle : List Char) (last : Char) {sql : String}
    {rest : List Char} (text : sql.toList = first :: middle ++ last :: rest)
    (firstInk : isBlank first = false) (lastInk : isBlank last = false) (lastPlain : last ≠ ';')
    (other : forall word, word ∈ ["START TRANSACTION", "BEGIN", "COMMIT", "ROLLBACK"] ->
      ((first :: middle ++ [last]).map Char.toUpper).isPrefixOf word.toList = false) :
    Plain sql := by
  rcases bare_of_verb first middle last text firstInk lastInk lastPlain with ⟨rest', stripped⟩
  apply plain_of_words
  intro word member
  rw [stripped, List.map_append]
  exact ofList_ne_of_beginning (other word member)

/-- The calls, definitions and reports that the actions make are plain. -/
theorem plain_of_known_verb (verb : String) {sql : String}
    (known : verb ∈ ["CALL", "CREATE", "DROP", "SELECT", "SHOW", "DESCRIBE"])
    (begins : exists rest, sql.toList = verb.toList ++ rest) :
    Plain sql := by
  rcases begins with ⟨rest, text⟩
  simp only [List.mem_cons, List.not_mem_nil, or_false] at known
  rcases known with rfl | rfl | rfl | rfl | rfl | rfl
  · exact plain_of_verb 'C' ['A', 'L'] 'L' text
      (by decide) (by decide) (by decide) (by decide)
  · exact plain_of_verb 'C' ['R', 'E', 'A', 'T'] 'E' text
      (by decide) (by decide) (by decide) (by decide)
  · exact plain_of_verb 'D' ['R', 'O'] 'P' text
      (by decide) (by decide) (by decide) (by decide)
  · exact plain_of_verb 'S' ['E', 'L', 'E', 'C'] 'T' text
      (by decide) (by decide) (by decide) (by decide)
  · exact plain_of_verb 'S' ['H', 'O'] 'W' text
      (by decide) (by decide) (by decide) (by decide)
  · exact plain_of_verb 'D' ['E', 'S', 'C', 'R', 'I', 'B'] 'E' text
      (by decide) (by decide) (by decide) (by decide)

theorem plain_call (procedure : String) (arguments : List String) :
    Plain (Sql.callProcedure procedure arguments) := by
  apply plain_of_known_verb "CALL" (by simp)
  simp only [Sql.callProcedure, String.toList_append, List.append_assoc]
  exact ⟨_, rfl⟩

/-! ## Statements that are work -/

/-- What starts otherwise than a beginning does not begin so, whatever follows. -/
theorem after?_append_eq_none {beginning start : List Char}
    (differs : after? (beginning.take start.length) start = none) (rest : List Char) :
    after? beginning (start ++ rest) = none := by
  induction beginning generalizing start with
  | nil =>
      rw [List.take_nil, after?] at differs
      cases differs
  | cons b beginning inductionHypothesis =>
      cases start with
      | nil => cases differs
      | cons c start =>
          rw [List.length_cons, List.take_succ_cons, after?] at differs
          rw [List.cons_append, after?]
          split at differs
          · rename_i same
            rw [if_pos same]
            exact inductionHypothesis differs
          · rename_i other
            rw [if_neg other]

/-- A statement that begins with another verb neither begins nor ends a transaction, and moves its
session nowhere. -/
theorem work_of_verb (first : Char) (middle : List Char) (last : Char) {sql : String}
    {rest : List Char} (text : sql.toList = first :: middle ++ last :: rest)
    (firstInk : isBlank first = false) (lastInk : isBlank last = false) (lastPlain : last ≠ ';')
    (other : forall word, word ∈ ["START TRANSACTION", "BEGIN", "COMMIT", "ROLLBACK"] ->
      ((first :: middle ++ [last]).map Char.toUpper).isPrefixOf word.toList = false)
    (still : forall beginning, beginning ∈ ["USE ", "CALL DOLT_CHECKOUT("] ->
      after? (beginning.toList.take (first :: middle ++ [last]).length)
        ((first :: middle ++ [last]).map Char.toUpper) = none) :
    Control.read sql = .work := by
  have plain := plain_of_verb first middle last text firstInk lastInk lastPlain other
  rcases bare_of_verb first middle last text firstInk lastInk lastPlain with ⟨rest', stripped⟩
  have nowhere : forall beginning, beginning ∈ ["USE ", "CALL DOLT_CHECKOUT("] ->
      afterCapitals? beginning (bare sql.toList) = none := by
    intro beginning member
    have differs := still beginning member
    rw [← List.length_map (f := Char.toUpper)] at differs
    rw [afterCapitals?, stripped, List.map_append, after?_append_eq_none differs, Option.map_none]
  rw [plain.read_eq_work_iff]
  simp only [Control.read, nowhere "USE " (by simp), nowhere "CALL DOLT_CHECKOUT(" (by simp)]
  repeat' split
  all_goals rfl

/-- The procedures by which actions change something. -/
def changingProcedures : List String :=
  ["DOLT_BRANCH", "DOLT_MERGE", "DOLT_COMMIT", "DOLT_RESET", "DOLT_ADD"]

/-- The calls that change something are work. -/
theorem read_call {procedure : String} (known : procedure ∈ changingProcedures)
    (arguments : List String) : Control.read (Sql.callProcedure procedure arguments) = .work := by
  have text : (Sql.callProcedure procedure arguments).toList = "CALL ".toList ++
      (procedure.toList ++ ('(' ::
        ((String.intercalate ", " (arguments.map Sql.quoteLiteral)).toList ++ [')', ';']))) := by
    simp [Sql.callProcedure]
  simp only [changingProcedures, List.mem_cons, List.not_mem_nil, or_false] at known
  rcases known with rfl | rfl | rfl | rfl | rfl
  · exact work_of_verb 'C' "ALL DOLT_BRANC".toList 'H' text
      (by decide) (by decide) (by decide) (by decide) (by decide)
  · exact work_of_verb 'C' "ALL DOLT_MERG".toList 'E' text
      (by decide) (by decide) (by decide) (by decide) (by decide)
  · exact work_of_verb 'C' "ALL DOLT_COMMI".toList 'T' text
      (by decide) (by decide) (by decide) (by decide) (by decide)
  · exact work_of_verb 'C' "ALL DOLT_RESE".toList 'T' text
      (by decide) (by decide) (by decide) (by decide) (by decide)
  · exact work_of_verb 'C' "ALL DOLT_AD".toList 'D' text
      (by decide) (by decide) (by decide) (by decide) (by decide)

/-- To create or drop a database is work. -/
theorem read_definition {verb : String} (known : verb ∈ ["CREATE", "DROP"]) (name : String) :
    Control.read (verb ++ " DATABASE " ++ Sql.quoteIdentifier name ++ ";") = .work := by
  have text : (verb ++ " DATABASE " ++ Sql.quoteIdentifier name ++ ";").toList =
      verb.toList ++
        (' ' :: ("DATABASE ".toList ++ ((Sql.quoteIdentifier name).toList ++ [';']))) := by
    simp
  simp only [List.mem_cons, List.not_mem_nil, or_false] at known
  rcases known with rfl | rfl
  · exact work_of_verb 'C' ['R', 'E', 'A', 'T'] 'E' text
      (by decide) (by decide) (by decide) (by decide) (by decide)
  · exact work_of_verb 'D' ['R', 'O'] 'P' text
      (by decide) (by decide) (by decide) (by decide) (by decide)

/-! ## The statement of every plan -/

/-- Every plan that comes out is for a statement with a property. -/
def Yields (property : String -> Prop) (result : Except Error Plan) : Prop :=
  forall plan, result = .ok plan -> property plan.sql

namespace Yields

variable {property : String -> Prop}

theorem pure {plan : Plan} (holds : property plan.sql) : Yields property (pure plan) := by
  rintro _ ⟨⟩
  exact holds

theorem bind {α : Type} {first : Except Error α} {next : α -> Except Error Plan}
    (holds : forall value, first = .ok value -> Yields property (next value)) :
    Yields property (first >>= next) := by
  intro plan made
  cases first with
  | error e => cases made
  | ok value => exact holds value rfl plan made

end Yields

namespace Action

variable {classify : Sql.Classifier} {arguments : Arguments}

theorem readPlan_yields {sql : String} (plain : Plain sql) (scope : Except Error Scope) :
    Yields Plain (readPlan scope sql arguments) :=
  .bind fun _ _ => .bind fun _ _ => .pure plain

theorem databasePlan_yields {verb done : String} (known : verb ∈ ["CREATE", "DROP"]) :
    Yields Plain (databasePlan verb done arguments) := by
  refine .bind fun name _ => .pure (plain_of_known_verb verb ?_ ?_)
  · simp only [List.mem_cons, List.not_mem_nil, or_false] at known
    rcases known with rfl | rfl <;> simp
  · simp only [Plan.sql, String.toList_append, List.append_assoc]
    exact ⟨_, rfl⟩

theorem write_yields (scope : Scope) (procedure report : String) (given : List String) :
    Yields Plain (pure (.write scope (Sql.callProcedure procedure given) report)) :=
  .pure (plain_call procedure given)

theorem tableChangesPlan_yields : Yields Plain (tableChangesPlan arguments) := by
  refine .bind fun _ _ => .bind fun _ _ => .bind fun _ _ => .bind fun _ _ => .bind fun _ _ =>
    .bind fun _ _ => .bind fun _ _ => .bind fun _ _ => .pure ?_
  apply plain_of_known_verb "SELECT" (by simp)
  simp only [Plan.sql, String.toList_append, List.append_assoc]
  exact ⟨_, rfl⟩

/-- A caller's statement is the argument that holds it. -/
theorem callerStatement_eq_ok {expected : Sql.StatementKind} {sql : String}
    (made : callerStatement classify arguments expected = .ok sql) :
    arguments.text Sql.statementArgument = .ok sql := by
  rw [callerStatement] at made
  cases read : arguments.text Sql.statementArgument with
  | error e =>
      rw [read] at made
      cases made
  | ok given =>
      rw [read] at made
      cases kind : classify.expect expected given with
      | error e =>
          simp only [bind, Except.bind, kind] at made
          cases made
      | ok _ =>
          simp only [bind, Except.bind, kind] at made
          exact made

/-- What an action does not take from its caller neither begins nor ends a transaction. -/
theorem plan_yields (action : Action) :
    Yields (fun sql => Plain sql ∨ ((action = .query ∨ action = .exec) ∧
      arguments.text Sql.statementArgument = .ok sql)) (action.plan classify arguments) := by
  have own : forall {result : Except Error Plan}, Yields Plain result ->
      Yields (fun sql => Plain sql ∨ ((action = .query ∨ action = .exec) ∧
        arguments.text Sql.statementArgument = .ok sql)) result :=
    fun yields plan made => Or.inl (yields plan made)
  cases action with
  | query =>
      exact .bind fun _ _ => .bind fun _ read => .bind fun _ _ =>
        .pure (Or.inr ⟨Or.inl rfl, callerStatement_eq_ok read⟩)
  | exec =>
      exact .bind fun _ _ => .bind fun _ read =>
        .pure (Or.inr ⟨Or.inr rfl, callerStatement_eq_ok read⟩)
  | listDatabases =>
      refine own (.bind fun _ _ => .pure ?_)
      exact plain_of_known_verb "SHOW" (by simp) ⟨" DATABASES;".toList, by simp [Plan.sql]⟩
  | createDatabase => exact own (databasePlan_yields (by simp))
  | dropDatabase => exact own (databasePlan_yields (by simp))
  | selectActiveBranch =>
      exact own (readPlan_yields (plain_of_known_verb "SELECT" (by simp) ⟨_, rfl⟩) _)
  | listBranches =>
      exact own (readPlan_yields (plain_of_known_verb "SELECT" (by simp) ⟨_, rfl⟩) _)
  | createBranch =>
      exact own (.bind fun _ _ => .bind fun _ _ => .bind fun _ _ => .bind fun _ _ =>
        .bind fun _ _ => write_yields _ _ _ _)
  | deleteBranch =>
      exact own (.bind fun _ _ => .bind fun _ _ => .bind fun _ _ => write_yields _ _ _ _)
  | mergeBranch =>
      exact own (.bind fun _ _ => .bind fun _ _ => .bind fun _ _ => .bind fun _ _ =>
        write_yields _ _ _ _)
  | listCommits =>
      exact own (readPlan_yields (plain_of_known_verb "SELECT" (by simp) ⟨_, rfl⟩) _)
  | createCommit =>
      exact own (.bind fun _ _ => .bind fun _ _ => .bind fun _ _ => write_yields _ _ _ _)
  | resetHard =>
      exact own (.bind fun _ _ => .bind fun _ _ => .bind fun _ _ => write_yields _ _ _ _)
  | listWorkingSetChanges =>
      exact own (readPlan_yields (plain_of_known_verb "SELECT" (by simp) ⟨_, rfl⟩) _)
  | listTableChanges => exact own tableChangesPlan_yields
  | stageTable => exact own (.bind fun _ _ => .bind fun _ _ => write_yields _ _ _ _)
  | stageAllTables => exact own (.bind fun _ _ => write_yields _ _ _ _)
  | unstageTable => exact own (.bind fun _ _ => .bind fun _ _ => write_yields _ _ _ _)
  | unstageAllTables => exact own (.bind fun _ _ => write_yields _ _ _ _)
  | showTables =>
      exact own (readPlan_yields (plain_of_known_verb "SHOW" (by simp) ⟨_, rfl⟩) _)
  | describeTable =>
      refine own (.bind fun _ _ => .bind fun _ _ => .bind fun _ _ => .pure
        (plain_of_known_verb "DESCRIBE" (by simp) ?_))
      simp only [Plan.sql, String.toList_append, List.append_assoc]
      exact ⟨_, rfl⟩

end Action
end ScopedSql
