import ScopedSql.Desk.Command
import ScopedSql.Proofs.World.Image

namespace ScopedSql

open World

/-!
# Transactions over a server that is seen as another
-/

variable {σ τ κ α : Type} [Backend σ κ] [Backend τ κ] {see : σ -> τ} (seen : Backend.Seen see)
include seen

namespace Transaction

variable (tx : Transaction κ) (context : Context) (w : World σ κ)

theorem image_rollback : tx.rollback (w.image see) =
    ((tx.rollback w).1, (tx.rollback w).2.1, (tx.rollback w).2.2.image see) := by
  have cleanup : (w.image see).cleanup = w.cleanup := rfl
  rw [rollback, rollback]
  split
  · rfl
  · rename_i session live
    rw [cleanup, image_executeIn seen]
    rcases w.executeIn w.cleanup "rollback" "ROLLBACK" session with ⟨e | count, session', w'⟩
    · exact congrArg (fun w => (_, _, w)) (image_close seen w' session')
    · exact congrArg (fun w => (_, _, w)) (image_close seen w' session')

theorem image_commit : tx.commit context (w.image see) =
    ((tx.commit context w).1, (tx.commit context w).2.1, (tx.commit context w).2.2.image see) := by
  rw [commit, commit]
  split
  · rfl
  · rename_i session live
    rw [image_executeIn seen]
    rcases w.executeIn context "commit" "COMMIT" session with ⟨e | count, session', w'⟩
    · simp only [image_rollback seen]
    · exact congrArg (fun w => (_, _, w)) (image_close seen w' session')

theorem image_drop (attended : Bool) :
    tx.drop attended (w.image see) = (tx.drop attended w).image see := by
  rw [drop, drop]
  split
  · rfl
  · cases attended with
    | false => rfl
    | true =>
        simp only [image_delay seen]
        rfl

theorem image_executeAs (operation sql : String) :
    tx.executeAs context operation sql (w.image see) =
    ((tx.executeAs context operation sql w).1, (tx.executeAs context operation sql w).2.1,
      (tx.executeAs context operation sql w).2.2.image see) := by
  rw [executeAs, executeAs]
  split
  · rfl
  · rw [image_executeIn seen]

theorem image_query (sql : String) : tx.query context sql (w.image see) =
    ((tx.query context sql w).1, (tx.query context sql w).2.1,
      (tx.query context sql w).2.2.image see) := by
  rw [query, query]
  split
  · rfl
  · rw [image_queryIn seen]

theorem image_queryText (sql : String) (format : Format) :
    tx.queryText context sql format (w.image see) =
      ((tx.queryText context sql format w).1, (tx.queryText context sql format w).2.1,
        (tx.queryText context sql format w).2.2.image see) := by
  rw [queryText, queryText, image_query seen]

theorem image_bootstrap (sqls : List String) (tx : Transaction κ) (w : World σ κ) :
    tx.bootstrap context sqls (w.image see) =
      ((tx.bootstrap context sqls w).1, (tx.bootstrap context sqls w).2.image see) := by
  induction sqls generalizing tx w with
  | nil => rfl
  | cons sql rest inductionHypothesis =>
      rw [bootstrap, bootstrap, image_executeAs seen]
      rcases tx.executeAs context "bootstrap" sql w with ⟨e | count, tx', w'⟩
      · simp only [image_rollback seen]
      · exact inductionHypothesis tx' w'

theorem image_begin (connector : Connector) (scope : Scope) :
    begin context connector scope (w.image see) =
      ((begin context connector scope w).1, (begin context connector scope w).2.image see) := by
  rw [begin, begin]
  split
  · rfl
  · rw [image_connectIn seen]
    rcases w.connectIn context connector.target with ⟨e | session, w'⟩
    · rfl
    · simp only [image_executeIn seen]
      rcases w'.executeIn context "begin" "START TRANSACTION" session
        with ⟨e | count, session', w2⟩
      · exact congrArg (fun w => (_, w)) (World.image_close seen w2 session')
      · exact image_bootstrap seen context _ _ w2

theorem image_finish (outcome : Except Error α) : tx.finish context outcome (w.image see) =
    ((tx.finish context outcome w).1, (tx.finish context outcome w).2.1,
      (tx.finish context outcome w).2.2.image see) := by
  cases outcome with
  | error e => simp only [finish, image_rollback seen]
  | ok value =>
      simp only [finish, image_commit seen]
      rcases tx.commit context w with ⟨e | _, tx', w'⟩ <;> rfl

/-- Work on a transaction that does not look into the server either. -/
def Body.Seen (see : σ -> τ) (body : Body σ κ α) (body' : Body τ κ α) : Prop :=
  forall tx w, body' tx (w.image see) =
    ((body tx w).1, (body tx w).2.1, (body tx w).2.2.image see)

variable {body : Body σ κ α} {body' : Body τ κ α}

theorem image_beginWrite (same : body.Seen see body') (connector : Connector) (scope : Scope) :
    beginWrite context connector scope body' (w.image see) =
      ((beginWrite context connector scope body w).1,
        (beginWrite context connector scope body w).2.image see) := by
  rw [beginWrite, beginWrite, image_begin seen]
  rcases begin context connector scope w with ⟨e | tx, w'⟩
  · rfl
  · simp only [write, same tx w', image_finish seen]

theorem image_beginReadOnly (same : body.Seen see body') (connector : Connector) (scope : Scope) :
    beginReadOnly context connector scope body' (w.image see) =
      ((beginReadOnly context connector scope body w).1,
        (beginReadOnly context connector scope body w).2.image see) := by
  rw [beginReadOnly, beginReadOnly, image_begin seen]
  rcases begin context connector scope w with ⟨e | tx, w'⟩
  · rfl
  · simp only [readOnly, same tx w', image_rollback seen]

end Transaction

namespace Command

theorem image_run (command : Command) (context : Context) (tx : Transaction κ) (w : World σ κ) :
    command.run context tx (w.image see) =
      ((command.run context tx w).1, (command.run context tx w).2.1,
        (command.run context tx w).2.2.image see) := by
  cases command with
  | execute sql => simp only [run, Transaction.execute, Transaction.image_executeAs seen]
  | query sql format => simp only [run, Transaction.image_queryText seen]
  | rows sql => simp only [run, Transaction.image_query seen]
  | commit => simp only [run, Transaction.image_commit seen]
  | rollback => simp only [run, Transaction.image_rollback seen]
  | cancel =>
      rw [run, run]
      cases context.token <;> rfl
  | fail text => rfl

theorem image_runAll (context : Context) (commands : List Command) :
    Transaction.Body.Seen see (runAll (σ := σ) context commands)
      (runAll (κ := κ) context commands) := by
  intro tx w
  induction commands generalizing tx w with
  | nil => rfl
  | cons command rest inductionHypothesis =>
      rw [runAll, runAll, image_run seen]
      rcases command.run context tx w with ⟨e | reply, tx', w'⟩
      · rfl
      · simp only [inductionHypothesis tx' w']

end Command
end ScopedSql
