import ScopedSql.Transaction.Finish

namespace ScopedSql

/-!
# Commands to a transaction

What a caller may ask of a transaction, as data, and what comes back.
-/

/-- A thing that a request needs and that may not be there. -/
inductive Thing
  | transaction
  | database
  | actions
  deriving DecidableEq, Repr

/-- What comes back from a request that succeeded. -/
inductive Reply
  | done
  | count (n : Nat)
  | text (s : String)
  | rows (set : ResultSet)
  | contextState (cancelled hasDeadline : Bool)
  | list (replies : List Reply)
  | missing (thing : Thing)

/-- What can be asked of a transaction. -/
inductive Command
  | execute (sql : String)
  | query (sql : String) (format : Format)
  | rows (sql : String)
  | commit
  | rollback
  /-- Cancel the context in which the commands run. -/
  | cancel
  /-- Fail with a text. -/
  | fail (text : String)
  deriving DecidableEq, Repr

namespace Command

variable {σ κ : Type} [Backend σ κ]

def run (context : Context) (tx : Transaction κ) (w : World σ κ) :
    Command -> Except Error Reply × Transaction κ × World σ κ
  | .execute sql =>
    let (result, tx, w) := tx.execute context sql w
    (result.map Reply.count, tx, w)
  | .query sql format =>
    let (result, tx, w) := tx.queryText context sql format w
    (result.map Reply.text, tx, w)
  | .rows sql =>
    let (result, tx, w) := tx.query context sql w
    (result.map Reply.rows, tx, w)
  | .commit =>
    let (result, tx, w) := tx.commit context w
    (result.map (fun _ => Reply.done), tx, w)
  | .rollback =>
    let (result, tx, w) := tx.rollback w
    (result.map (fun _ => Reply.done), tx, w)
  | .cancel => (.ok .done, tx, (context.token.map w.cancel).getD w)
  | .fail text => (.error (.reported text), tx, w)

/-- Give commands to a transaction until the first one that fails. -/
def runAll (context : Context) : List Command -> Transaction.Body σ κ (List Reply)
  | [], tx, w => (.ok [], tx, w)
  | command :: rest, tx, w =>
    match command.run context tx w with
    | (.error e, tx, w) => (.error e, tx, w)
    | (.ok reply, tx, w) =>
      let (replies, tx, w) := runAll context rest tx w
      (replies.map (fun replies => reply :: replies), tx, w)

end Command
end ScopedSql
