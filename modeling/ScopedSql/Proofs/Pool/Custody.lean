import ScopedSql.Pool.Basic
import ScopedSql.Proofs.World.Custody

namespace ScopedSql

/-!
# Pools account for their sessions

To see that the server can be reached, a pool opens one session and closes it again.
After that it has no session but those that it takes in once they are opened and
positioned in the background.  A session that it has taken in stays its own, though
it may be out of sight: a session that fails its check is let go and not closed.
-/

variable {σ κ : Type} [Backend σ κ]

namespace Pool

open Custody

variable (custody : Custody σ κ) (pool : Pool) (context : Context) (w : World σ κ)

theorem start_passes (connector : Connector) (scope : Scope) :
    custody.Passes .empty w .empty (start context connector scope w).2 := by
  rw [start]
  cases scope.statements with
  | error e => exact .refl
  | ok pinned =>
      have opened := Passes.connectIn custody context connector.target w
      simp only
      generalize w.connectIn context connector.target = answer at opened ⊢
      rcases answer with ⟨e | session, w'⟩
      · exact opened
      · have closed := (opened.trans (Passes.pingIn custody Hands.grip_holding context
          session w')).trans .close
        simp only
        generalize w'.pingIn context session = answer at closed ⊢
        rcases answer with ⟨e | _, session', w2⟩
        · exact closed
        · exact closed.trans (.calm rfl rfl rfl (List.Subset.refl _))

/-- A session that was lent is still lent after it was put through statements. -/
theorem reposition_passes (sqls : List String) (session : κ) :
    custody.Passes (.borrowing (custody.number session)) w
      (.borrowing (custody.number (reposition context sqls session w).2.1))
      (reposition context sqls session w).2.2 := by
  induction sqls generalizing session w with
  | nil => exact .refl
  | cons sql rest inductionHypothesis =>
      have waited := Passes.await custody (.borrowing (custody.number session)) w context
        "acquire" (w.delay sql)
      rw [reposition]
      generalize w.await context "acquire" (w.delay sql) = answer at waited ⊢
      rcases answer with ⟨e | _, w'⟩
      · exact waited
      · have said := waited.trans (Passes.execute custody Hands.grip_borrowing session w' sql)
        simp only
        generalize w'.execute sql session = answer at said ⊢
        rcases answer with ⟨e | count, session', w2⟩
        · exact said
        · exact said.trans (inductionHypothesis w2 session')

theorem check_passes (session : κ) :
    custody.Passes (.borrowing (custody.number session)) w
      (.borrowing (custody.number (pool.check context session w).2.1))
      (pool.check context session w).2.2 := by
  rw [check]
  split
  · have pinged := Passes.ping custody Hands.grip_borrowing session w
    generalize w.ping session = answer at pinged ⊢
    rcases answer with ⟨e | _, session', w'⟩
    · exact pinged
    · exact pinged
  · exact reposition_passes custody context w pool.pinned session

theorem awaitIdle_passes (limit : Nat) :
    custody.Passes .empty w .empty (pool.awaitIdle context limit w).2 := by
  rw [awaitIdle]
  split
  · exact .refl
  · have elapsed := Passes.elapse custody .empty
      (fun w => w.isCancelled context || (w.idle? pool.number).isSome) limit w
    simp only
    split
    · exact elapsed
    · split
      · exact elapsed
      · exact elapsed.trans (.moveTo limit)

/-- A pool that starts is pinned to the statements of its scope. -/
theorem statements_of_start {context : Context} {connector : Connector} {scope : Scope}
    {pool : Pool} {w w' : World σ κ} (started : start context connector scope w = (.ok pool, w')) :
    scope.statements = .ok pool.pinned := by
  rw [start] at started
  cases made : scope.statements with
  | error e =>
      rw [made] at started
      cases started
  | ok pinned =>
      rw [made] at started
      simp only at started
      split at started
      · cases started
      · split at started
        · cases started
        · cases started
          rfl

/-! ## Pools with statements that were asked for -/

section Asked
variable {custody pool} (asks : custody.asks pool.pinned)
include asks

theorem request_passes : custody.Passes .empty w .empty (pool.request w) := by
  rw [request]
  split
  · exact .refl
  · exact .spawn 0 (.connect pool.number pool.connector.target pool.pinned) asks

/-- Who gets a session from a pool is lent one, and who gets none has none. -/
theorem acquireBefore_passes (limit rounds : Nat) :
    custody.Passes .empty w
      (.lending (heldBy custody.number (pool.acquireBefore context limit rounds w).1))
      (pool.acquireBefore context limit rounds w).2 := by
  induction rounds generalizing w with
  | zero => exact .refl
  | succ rounds inductionHypothesis =>
      rw [acquireBefore]
      split
      · rename_i session keeps
        have checked := (Passes.takeIdle custody keeps).trans
          (check_passes custody pool (context.upTo limit) _ session)
        generalize pool.check (context.upTo limit) session (w.takeIdle pool.number) = answer
          at checked ⊢
        rcases answer with ⟨_ | _ | e, session', w'⟩
        · exact checked
        · exact (checked.trans .forget).trans (inductionHypothesis w')
        · exact checked.trans (.putBack pool.number)
      · have waited := (request_passes w asks).trans
          (awaitIdle_passes custody pool context _ ((context.upTo limit).deadline.getD limit))
        generalize pool.awaitIdle context ((context.upTo limit).deadline.getD limit)
          (pool.request w) = answer at waited ⊢
        rcases answer with ⟨e | _, w'⟩
        · exact waited
        · exact waited.trans (inductionHypothesis w')

theorem acquire_passes :
    custody.Passes .empty w (.lending (heldBy custody.number (pool.acquire context w).1))
      (pool.acquire context w).2 := by
  rw [acquire]
  split
  · exact .refl
  · exact acquireBefore_passes context w asks _ _

/-- A session that a pool lends goes back to it after one statement. -/
theorem execute_passes (sql : String) :
    custody.Passes .empty w .empty (pool.execute context sql w).2 := by
  have acquired := acquire_passes context w asks
  rw [execute]
  generalize pool.acquire context w = answer at acquired ⊢
  rcases answer with ⟨e | session, w'⟩
  · exact acquired
  · have said := acquired.trans
      (.executeIn custody Hands.grip_borrowing context session w' "exec" sql)
    exact said.trans (.putBack pool.number)

theorem query_passes (sql : String) :
    custody.Passes .empty w .empty (pool.query context sql w).2 := by
  have acquired := acquire_passes context w asks
  rw [query]
  generalize pool.acquire context w = answer at acquired ⊢
  rcases answer with ⟨e | session, w'⟩
  · exact acquired
  · have said := acquired.trans
      (.queryIn custody Hands.grip_borrowing context session w' "query" sql)
    exact said.trans (.putBack pool.number)

end Asked

end Pool
end ScopedSql
