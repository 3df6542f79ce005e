import ScopedSql.Action.Run
import ScopedSql.Proofs.Action.Intent
import ScopedSql.Proofs.Sql.Batch
import ScopedSql.Scripted.Server

namespace ScopedSql

open Sql

/-!
# What a query admits

The action that runs a caller's query asks only whether the text is a read, and
then hands it over as it is.  So the first statement of what it sends is a read.
Where others follow, nothing is claimed about them.
-/

namespace Sql.Classifier

/-- A text that is let through is of the expected kind. -/
theorem expect_eq_ok {classify : Classifier} {expected : StatementKind} {sql : String} {u : Unit}
    (expects : classify.expect expected sql = .ok u) : classify sql = .ok expected := by
  simp only [expect, bind_eq_ok] at expects
  rcases expects with ⟨kind, found, checked⟩
  split at checked
  · rename_i same
    exact same ▸ found
  · cases checked

end Sql.Classifier

namespace Action

variable {classify : Classifier} {arguments : Arguments} {plan : Plan}

/-- The query of a caller is planned as a read, and it is one for the classifier. -/
theorem query_plan_eq_ok (made : query.plan classify arguments = .ok plan) :
    exists scope sql format, plan = .read scope sql format ∧
      arguments.text statementArgument = .ok sql ∧ classify sql = .ok .read := by
  simp only [Action.plan, callerStatement, bind_eq_ok, pure_eq_ok] at made
  rcases made with ⟨scope, _, sql, ⟨_, brought, _, expected, rfl⟩, format, _, rfl⟩
  exact ⟨scope, _, format, rfl, brought, Classifier.expect_eq_ok expected⟩

end Action

namespace Actions

variable {σ κ : Type} [Backend σ κ]

/-- A query is turned down before anything is done, or its text is run as it is, in a transaction
that is rolled back.  The first statement of such a text is a read, also for a dialect that does not
know all comments, if it knows those in front of the text. -/
theorem perform_query_admits (actions : Actions) (standard : actions.classify = .byKeyword)
    (context : Context) (arguments : Arguments) (w : World σ κ) :
    (exists e, actions.perform context .query arguments w = (.error e, w)) ∨
      exists scope sql format, arguments.text statementArgument = .ok sql ∧
        actions.perform context .query arguments w =
          Transaction.beginReadOnly context actions.connector scope
            (fun tx w => tx.queryText context sql format w) w ∧
        Dialect.plain.Admits sql ∧
        forall dialect : Dialect, dialect.agreesOn sql.toList = true -> dialect.Admits sql := by
  rw [perform, standard]
  cases made : Action.query.plan .byKeyword arguments with
  | error e => exact Or.inl ⟨e, rfl⟩
  | ok plan =>
      rcases Action.query_plan_eq_ok made with ⟨scope, sql, format, rfl, brought, reads⟩
      have admits : forall dialect : Dialect, dialect.agreesOn sql.toList = true ->
          dialect.Admits sql :=
        fun dialect agrees => (Dialect.admits_iff agrees).mpr reads
      have plain : Dialect.plain.Admits sql :=
        admits .plain (Dialect.agreesOn_of_comments (fun _ => rfl) sql.toList)
      exact Or.inr ⟨scope, sql, format, brought, rfl, plain, admits⟩

/-- A query with semicolons in its strings, names and comments is let through, and its only
statement that is not empty is a read. -/
theorem perform_query_of_semicolons :
    let sql := "-- all; of it\n/* ; */ SELECT ';\\';' AS \x60a;b\x60; # end;"
    let arguments : Arguments := ⟨[("database", .text "shop"), ("query", .text sql)]⟩
    let actions : Actions :=
      ⟨Scripted.connector, ⟨0, Scripted.connector, []⟩, .byKeyword⟩
    let w : World Scripted.Server Scripted.Session := .start .standard
    (actions.perform ⟨none, none⟩ .query arguments w).1.isOk = true ∧
      Dialect.mysql.Admits sql ∧
      Classifier.byKeyword "-- all; of it\n/* ; */ SELECT ';\\';' AS \x60a;b\x60" = .ok .read := by
  intro sql arguments actions w
  have works : (actions.perform ⟨none, none⟩ .query arguments w).1.isOk = true := by
    decide +kernel
  have agrees : Dialect.mysql.agreesOn sql.toList = true := by decide +kernel
  rcases actions.perform_query_admits rfl ⟨none, none⟩ arguments w
    with ⟨e, failed⟩ | ⟨scope, _, format, brought, _, _, admits⟩
  · rw [failed] at works
    cases works
  · cases brought
    have admitted := admits .mysql agrees
    refine ⟨works, admitted, ?_⟩
    apply admitted.lone
    · decide +kernel
    · decide +kernel
    · decide +kernel

/-- A text that ends the transaction behind a read is let through and run as it is. -/
theorem perform_query_of_batch :
    let sql := "SELECT 1; COMMIT"
    let arguments : Arguments := ⟨[("database", .text "shop"), ("query", .text sql)]⟩
    let actions : Actions :=
      ⟨Scripted.connector, ⟨0, Scripted.connector, []⟩, .byKeyword⟩
    let w : World Scripted.Server Scripted.Session := .start .standard
    let answer := actions.perform ⟨none, none⟩ .query arguments w
    answer.1.isOk = true ∧ sql ∈ answer.2.server.ledger.entries.map Scripted.Entry.sql ∧
      Dialect.plain.statements sql.toList = ["SELECT 1".toList, " COMMIT".toList] ∧
      Dialect.plain.isEmpty " COMMIT".toList = false ∧
      Classifier.byKeyword " COMMIT" = .ok .write := by
  intro sql arguments actions w answer
  refine ⟨by decide +kernel, by decide +kernel, by decide +kernel, by decide +kernel, ?_⟩
  apply (byKeyword_decidedBy " COMMIT").write.mpr
  decide +kernel

end Actions
end ScopedSql
