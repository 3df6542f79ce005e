import ScopedSql.Action.Plan
import ScopedSql.Pool.Basic
import ScopedSql.Transaction.Finish

namespace ScopedSql

/-!
# Doing actions

The actions share one connector, one pool and one classifier.
-/

/-- What actions are done with. -/
structure Actions where
  connector : Connector
  pool : Pool
  classify : Sql.Classifier

namespace Actions

variable {σ κ : Type} [Backend σ κ]

def carryOut (actions : Actions) (context : Context) (w : World σ κ) :
    Plan -> Except Error String × World σ κ
  | .pooled sql format => actions.pool.queryText context sql format w
  | .read scope sql format =>
    Transaction.beginReadOnly context actions.connector scope
      (fun tx w => tx.queryText context sql format w) w
  | .write scope sql report =>
    let (result, w) :=
      Transaction.beginWrite context actions.connector scope
        (fun tx w => tx.execute context sql w) w
    (result.map (fun _ => report), w)

def perform (actions : Actions) (context : Context) (action : Action) (arguments : Arguments)
    (w : World σ κ) : Except Error String × World σ κ :=
  match action.plan actions.classify arguments with
  | .error e => (.error e, w)
  | .ok plan => actions.carryOut context w plan

end Actions
end ScopedSql
