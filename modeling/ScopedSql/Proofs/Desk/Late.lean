import ScopedSql.Proofs.Desk.Interruption
import ScopedSql.Proofs.Pool.Late

namespace ScopedSql

open Scripted World

/-!
# Requests after a deadline

A request whose deadline has passed is not refused outright.  It fails as soon as
one of the statements that it needs takes time, and then nothing becomes durable.
But statements that take no time are run all the same, and so is a commit.
-/

variable {rules : Rules} {context : Context} {deadline : Nat} {more : List String}
  {first : String} {tx : Transaction Session} {w : World Server Session} {α : Type}

/-! ## Actions -/

/-- The statements that a plan needs, in their order. -/
def Plan.needed (pool : Pool) : Plan -> List String
  | .pooled sql _ => pool.pinned ++ [sql]
  | .read scope sql _ => Life.opening scope ++ [sql]
  | .write scope sql _ => (Life.opening scope ++ [sql]) ++ ["COMMIT"]

namespace Actions

/-- The statements that an action needs; it needs none if its arguments are refused. -/
def needed (actions : Actions) (action : Action) (arguments : Arguments) : List String :=
  match action.plan actions.classify arguments with
  | .error _ => []
  | .ok plan => plan.needed actions.pool

theorem perform_belated {actions : Actions} (late : Late context w)
    (tame : Tame (rules.licence True).shut w) (same : w.server.rules = rules)
    (numbered : (w.circulation []).Numbered) (within : actions.pool.Within (rules.licence True))
    (action : Action) (arguments : Arguments) :
    Belated rules (actions.needed action arguments) w
      (actions.perform context action arguments w) := by
  rw [needed, perform]
  cases action.plan actions.classify arguments with
  | error e => exact .unsent
  | ok plan =>
      cases plan with
      | pooled sql format => exact Pool.queryText_belated late same within sql format
      | read scope sql format =>
          exact Transaction.beginReadOnly_belated late tame same numbered actions.connector scope
            sql format
      | write scope sql report =>
          exact (Transaction.beginWrite_belated late tame same numbered actions.connector scope
            sql).map _

end Actions

/-! ## Transactions in hand and desks -/

/-- The calls on a transaction within a context are belated. -/
structure Transaction.CallsBelated (rules : Rules) (context : Context) (tx : Transaction Session)
    (w : World Server Session) : Prop where
  execute : forall sql,
    Belated rules [sql] w ((tx.execute context sql w).1, (tx.execute context sql w).2.2)
  query : forall sql,
    Belated rules [sql] w ((tx.query context sql w).1, (tx.query context sql w).2.2)
  queryText : forall sql format, Belated rules [sql] w
    ((tx.queryText context sql format w).1, (tx.queryText context sql format w).2.2)
  commit : Belated rules ["COMMIT"] w ((tx.commit context w).1, (tx.commit context w).2.2)

theorem InHand.callsBelated (inHand : InHand rules tx w)
    (given : context.deadline = some deadline) (passed : deadline ≤ w.now) :
    tx.CallsBelated rules context w := by
  cases phase : tx.phase with
  | ended ending =>
      constructor <;> intros
      · rw [Transaction.execute, Transaction.executeAs, phase]
        exact .unsent
      · rw [Transaction.query, phase]
        exact .unsent
      · rw [Transaction.queryText, Transaction.query, phase]
        exact .unsent
      · rw [Transaction.commit, phase]
        exact .unsent
  | live session =>
      have exclusive := inHand.exclusive phase
      have same := exclusive.sameRules
      exact {
        execute := fun sql =>
          (Transaction.execute_candid exclusive phase context sql).belated same given passed
        query := fun sql =>
          (Transaction.query_candid exclusive phase context sql).belated same given passed
        queryText := fun sql format =>
          (Transaction.queryText_candid exclusive phase context sql format).belated same given
            passed
        commit := Transaction.commit_belated exclusive phase given passed }

namespace Desk

/-- The calls at a desk within a context are belated. -/
structure CallsBelated (rules : Rules) (context : Context) (desk : Desk Server Session) :
    Prop where
  begin : forall connector scope, Belated rules (Life.opening scope) desk.world
    (Transaction.begin context connector scope desk.world)
  poolExecute : forall pool, desk.pool? = some pool -> forall sql,
    Belated rules (pool.pinned ++ [sql]) desk.world (pool.execute context sql desk.world)
  poolQuery : forall pool, desk.pool? = some pool -> forall sql,
    Belated rules (pool.pinned ++ [sql]) desk.world (pool.query context sql desk.world)
  poolQueryText : forall pool, desk.pool? = some pool -> forall sql format,
    Belated rules (pool.pinned ++ [sql]) desk.world
      (pool.queryText context sql format desk.world)
  act : forall actions, desk.actions = some actions -> forall action arguments,
    Belated rules (actions.needed action arguments) desk.world
      (actions.perform context action arguments desk.world)

/-- Between requests no background work is due, so that a deadline that has passed is too late. -/
theorem late_of_run {requests : List Request} (given : context.deadline = some deadline)
    (passed : deadline ≤ ((ofRules rules).run requests).world.now) :
    Late context ((ofRules rules).run requests).world := by
  rcases List.eq_nil_or_concat requests with rfl | ⟨earlier, last, rfl⟩
  · exact ⟨deadline, given, passed, fun _ _ impossible => nomatch impossible⟩
  · rw [List.concat_eq_append, run_append] at passed ⊢
    exact late_of_settle given passed

theorem callsBelated_of_run {requests : List Request} (given : context.deadline = some deadline)
    (passed : deadline ≤ ((ofRules rules).run requests).world.now) :
    ((ofRules rules).run requests).CallsBelated rules context := by
  have late := late_of_run given passed
  have discreet := discreet_run rules requests
  have sound := sound_run rules False requests fun impossible => impossible.elim
  have same := sound.books.sameRules
  exact {
    begin := Transaction.begin_belated late discreet.tame same sound.books.numbered
    poolExecute := fun pool found => Pool.execute_belated late same (discreet.within found)
    poolQuery := fun pool found => Pool.query_belated late same (discreet.within found)
    poolQueryText := fun pool found => Pool.queryText_belated late same (discreet.within found)
    act := fun actions present => Actions.perform_belated late discreet.tame same
      sound.books.numbered (discreet.actions actions present) }

/-- Within a context whose deadline has passed, every call on a transaction, on a pool or on actions
fails and keeps nothing if a statement that it needs takes time, and of these statements it sends
only the first ones that take no time. -/
theorem belated_of_passed_deadline (rules : Rules) (given : context.deadline = some deadline) :
    (forall tx w, InHand rules tx w -> deadline ≤ w.now -> tx.CallsBelated rules context w) ∧
      forall requests, deadline ≤ ((ofRules rules).run requests).world.now ->
        ((ofRules rules).run requests).CallsBelated rules context :=
  ⟨fun _ _ inHand passed => inHand.callsBelated given passed,
    fun _ passed => callsBelated_of_run given passed⟩

/-- Ten milliseconds after its deadline a context still serves for calls, which are belated. -/
theorem belated_of_slow_statement :
    let rules := { Rules.standard with delays := [("SLOW", 5)] }
    let desk := (ofRules rules).run
      [.begin "main" "t" (.by Scripted.connector) .plain,
        .openPool "main" (.by Scripted.connector) (.onBranch "dev"),
        .newContext "late" (some 10) none, .advance 20]
    desk.CallsBelated rules (desk.context "late") ∧
      (exists tx, desk.transaction? "t" = some tx ∧
        tx.CallsBelated rules (desk.context "late") desk.world) ∧
      ¬ rules.Instant ["SLOW"] := by
  intro rules desk
  have given : (desk.context "late").deadline = some 10 := by decide +kernel
  have passed : 10 ≤ desk.world.now := by decide +kernel
  have there : (desk.transaction? "t").isSome := by decide +kernel
  rcases belated_of_passed_deadline rules given with ⟨transactions, desks⟩
  rcases Option.isSome_iff_exists.mp there with ⟨tx, found⟩
  refine ⟨desks _ passed, ⟨tx, found, transactions tx _ (.named found) passed⟩, ?_⟩
  intro instant
  exact absurd (instant "SLOW" List.mem_cons_self) (by decide +kernel)

/-- Ten milliseconds after its deadline a context still serves to insert something and to commit
it. -/
theorem insert_kept_after_deadline :
    let desk := (ofRules Rules.standard).run
      [.begin "main" "t" (.by Scripted.connector) .plain, .newContext "late" (some 10) none,
        .advance 20]
    let inserted := desk.perform (.command "late" "t" (.execute "INSERT 1"))
    let committed := inserted.2.perform (.command "late" "t" .commit)
    (desk.context "late").deadline = some 10 ∧ desk.world.now = 20 ∧
      inserted.1.isOk = true ∧ committed.1.isOk = true ∧
      committed.2.world.server.ledger.committed = ["INSERT 1"] := by
  decide +kernel

end Desk
end ScopedSql
