import ScopedSql.Transaction.Basic

namespace ScopedSql
namespace Transaction

/-!
# Work inside a transaction

A body works on a transaction and has an outcome.  What follows the body decides
once: after good work a commit, after a failure a rollback; after reading always
a rollback.  The failure of the body is what the caller sees, never that of the
rollback.
-/

variable {σ κ α : Type} [Backend σ κ]

/-- Work on a transaction. -/
abbrev Body (σ κ α : Type) :=
  Transaction κ -> World σ κ -> Except Error α × Transaction κ × World σ κ

/-- End a transaction as the outcome of the work on it says. -/
def finish (tx : Transaction κ) (context : Context) (outcome : Except Error α)
    (w : World σ κ) : Except Error α × Transaction κ × World σ κ :=
  match outcome with
  | .ok value =>
    match tx.commit context w with
    | (.ok _, tx, w) => (.ok value, tx, w)
    | (.error e, tx, w) => (.error e, tx, w)
  | .error e =>
    let (_, tx, w) := tx.rollback w
    (.error e, tx, w)

/-- Do work that is kept if it succeeds. -/
def write (tx : Transaction κ) (context : Context) (body : Body σ κ α) (w : World σ κ) :
    Except Error α × Transaction κ × World σ κ :=
  let (outcome, tx, w) := body tx w
  tx.finish context outcome w

/-- Do work that is never kept. -/
def readOnly (tx : Transaction κ) (body : Body σ κ α) (w : World σ κ) :
    Except Error α × Transaction κ × World σ κ :=
  let (outcome, tx, w) := body tx w
  let (_, tx, w) := tx.rollback w
  (outcome, tx, w)

/-- Begin a transaction, do work in it, and end it as the outcome says. -/
def beginWrite (context : Context) (connector : Connector) (scope : Scope)
    (body : Body σ κ α) (w : World σ κ) : Except Error α × World σ κ :=
  match begin context connector scope w with
  | (.error e, w) => (.error e, w)
  | (.ok tx, w) =>
    let (outcome, _, w) := tx.write context body w
    (outcome, w)

/-- Begin a transaction, do work in it, and roll it back. -/
def beginReadOnly (context : Context) (connector : Connector) (scope : Scope)
    (body : Body σ κ α) (w : World σ κ) : Except Error α × World σ κ :=
  match begin context connector scope w with
  | (.error e, w) => (.error e, w)
  | (.ok tx, w) =>
    let (outcome, _, w) := tx.readOnly body w
    (outcome, w)

end Transaction
end ScopedSql
