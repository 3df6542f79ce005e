import ScopedSql.Proofs.Desk.Blame
import ScopedSql.Proofs.Desk.Record
import ScopedSql.Proofs.Pool.Passage
import ScopedSql.Proofs.Scripted.Place

namespace ScopedSql

open Scripted World

/-!
# Where a lent session stands

A pool that is pinned puts a session through the statements of its scope before
it lends it.  Whatever was run on the session before, it then stands on the
branch of the scope, and on its database if the scope names one.  A scope that
names a branch only leaves the database as it was, and only a statement that
selects a database can have changed that.
-/

variable {scope : Scope} {session : Session} {licence : Licence} {rules : Rules}
  {w w' : World Server Session}

/-! ## The statements of a scope -/

/-- Where the statements of a scope put a session: selecting a database leaves the branch behind,
and what the scope does not name stays otherwise. -/
theorem Scope.follow_positions (valid : scope.Valid) (session : Session) :
    scope.positions.foldl Session.follow session =
      { session with
        database := scope.database?.or session.database
        branch := scope.branch?.or (if scope.database?.isSome then none else session.branch) } := by
  have selected : forall name, scope.database? = some name -> forall session : Session,
      session.follow (useStatement name) =
        { session with database := some name, branch := none } := fun name given =>
    Session.follow_of_use (read_use (valid.database name given))
  have checkedOut : forall name, scope.branch? = some name -> forall session : Session,
      session.follow (checkoutStatement name) = { session with branch := some name } :=
    fun name given => Session.follow_of_checkout (read_checkout (valid.branch name given))
  rw [positions]
  cases database : scope.database? <;> cases branch : scope.branch? <;>
    simp [selected, checkedOut, database, branch]

/-- A scope that names something has statements. -/
theorem Scope.positions_ne_nil (named : scope.database? ≠ none ∨ scope.branch? ≠ none) :
    scope.positions ≠ [] := by
  rcases scope with ⟨_ | database, _ | branch⟩
  · exact absurd named (by simp)
  all_goals exact List.cons_ne_nil _ _

/-- A session stands on a scope: on its branch, and on its database if it names one. -/
structure StandsOn (scope : Scope) (session : Session) : Prop where
  branch : session.branch = scope.branch?
  database : scope.database? ≠ none -> session.database = scope.database?

/-- The statements of a scope put any session on it, wherever it stood before. -/
theorem Scope.standsOn_positions (valid : scope.Valid) (pinned : scope.positions ≠ [])
    (session : Session) : StandsOn scope (scope.positions.foldl Session.follow session) := by
  rw [follow_positions valid]
  rcases scope with ⟨_ | database, _ | branch⟩
  · exact absurd rfl pinned
  · exact ⟨rfl, fun named => absurd rfl named⟩
  · exact ⟨rfl, fun _ => rfl⟩
  · exact ⟨rfl, fun _ => rfl⟩

theorem Scripted.Rules.replay_of_accepted {sqls : List String}
    (accepted : forall sql, sql ∈ sqls -> rules.refusal? sql = none) (session : Session) :
    rules.replay session sqls = sqls.foldl Session.follow session := by
  induction sqls generalizing session with
  | nil => rfl
  | cons sql rest inductionHypothesis =>
      rw [Rules.replay_cons, Rules.move_of_accepted (accepted sql List.mem_cons_self),
        List.foldl_cons]
      exact inductionHypothesis (fun other member => accepted other (List.mem_cons_of_mem _ member))
        _

/-- A session that was just opened stands exactly where the scope says, once the statements of the
scope were run on it. -/
theorem Scope.place_of_fresh (valid : scope.Valid)
    (accepted : forall sql, sql ∈ scope.positions -> rules.refusal? sql = none) (number : Nat) :
    (rules.replay (Session.fresh number) scope.positions).database = scope.database? ∧
      (rules.replay (Session.fresh number) scope.positions).branch = scope.branch? := by
  rw [Rules.replay_of_accepted accepted, follow_positions valid]
  rcases scope with ⟨_ | database, _ | branch⟩ <;> exact ⟨rfl, rfl⟩

namespace Pool

/-! ## Lending -/

/-- A session that was put through statements and passed has followed all of them. -/
theorem reposition_passed {context : Context} {sqls : List String} {session' : Session}
    (passed : reposition context sqls session w = (.passed, session', w')) :
    session' = sqls.foldl Session.follow session := by
  induction sqls generalizing session w with
  | nil =>
      cases passed
      rfl
  | cons sql rest inductionHypothesis =>
      rw [reposition] at passed
      rcases waited : w.await context "acquire" (w.delay sql) with ⟨e | _, w1⟩
      · rw [waited] at passed
        cases passed
      · rw [waited] at passed
        cases refused : w1.server.rules.refusal? sql with
        | some e =>
            simp only [execute_of_refused refused] at passed
            cases passed
        | none =>
            rcases execute_of_accepted refused session with ⟨count, ran⟩
            simp only [ran] at passed
            exact inductionHypothesis passed

variable {pool : Pool}

/-- A session that a pinned pool lends stands on the scope of the pool. -/
theorem acquireBefore_standsOn (valid : scope.Valid) (pinned : scope.positions ≠ [])
    (same : pool.pinned = scope.positions) {context : Context} {limit rounds : Nat}
    (lent : pool.acquireBefore context limit rounds w = (.ok session, w')) :
    StandsOn scope session := by
  induction rounds generalizing w with
  | zero => cases lent
  | succ rounds inductionHypothesis =>
      have checks : forall (bounded : Context) (kept : Session) (w : World Server Session),
          pool.check bounded kept w =
            reposition bounded scope.positions kept w := by
        intro bounded kept w
        rw [check, same, if_neg]
        simpa using pinned
      rw [acquireBefore] at lent
      split at lent
      · rename_i kept keeps
        rw [checks] at lent
        split at lent
        · rename_i after w1 outcome
          cases lent
          rw [reposition_passed outcome]
          exact Scope.standsOn_positions valid pinned kept
        · exact inductionHypothesis lent
        · cases lent
      · split at lent
        · exact inductionHypothesis lent
        · cases lent

theorem acquire_standsOn (valid : scope.Valid) (pinned : scope.positions ≠ [])
    (same : pool.pinned = scope.positions) {context : Context}
    (lent : pool.acquire context w = (.ok session, w')) : StandsOn scope session := by
  rw [acquire] at lent
  split at lent
  · cases lent
  · exact acquireBefore_standsOn valid pinned same lent

/-! ## Why a statement is not run -/

end Pool

/-- Does the error say that a caller was given no session, or was cut off? -/
def Error.isUnserved (e : Error) : Bool :=
  e.isInterruption || decide (e = .connection .poolExhausted)

/-- The result says that the statement of a caller was not run. -/
def Unserved {α : Type} (result : Except Error α) : Prop :=
  exists e, result = .error e ∧ e.isUnserved = true

theorem not_unserved {α : Type} {result : Except Error α}
    (own : FailsBy (fun e => e.isUnserved = false) result) : ¬ Unserved result := by
  rintro ⟨e, failed, unserved⟩
  rw [own e failed] at unserved
  cases unserved

theorem Error.isUnserved_of_interrupts {operation : String} {e : Error}
    (cause : e.Interrupts operation) : e.isUnserved = true := by
  rcases cause with rfl | rfl <;> rfl

theorem Error.isUnserved_of_reported {e : Error} (reported : exists text, e = .reported text) :
    e.isUnserved = false := by
  rcases reported with ⟨text, rfl⟩
  rfl

theorem Error.isUnserved_of_misfit {e : Error} (misfit : e.isMisfit = true) :
    e.isUnserved = false := by
  cases e with
  | missingColumn column => rfl
  | execution fault => rfl
  | _ => cases misfit

namespace Pool

variable {pool : Pool}

theorem fault_isUnserved {context : Context} {limit : Nat} {e : Error}
    (unserved : e.isUnserved = true) : (fault context limit e).isUnserved = true := by
  unfold fault
  split
  · split
    · split <;> rfl
    · rfl
  · exact unserved

theorem awaitIdle_fails (pool : Pool) (context : Context) (limit : Nat)
    (w : World Server Session) :
    FailsBy (fun e => e.isUnserved = true) (pool.awaitIdle context limit w).1 := by
  rw [awaitIdle]
  split
  · exact .error rfl
  · simp only
    split
    · exact .error rfl
    · split
      · exact .ok ()
      · exact .error rfl

theorem acquireBefore_fails (pool : Pool) (context : Context) (limit rounds : Nat)
    (w : World Server Session) :
    FailsBy (fun e => e.isUnserved = true) (pool.acquireBefore context limit rounds w).1 := by
  induction rounds generalizing w with
  | zero => exact .error rfl
  | succ rounds inductionHypothesis =>
      rw [acquireBefore]
      split
      · rename_i kept keeps
        split
        · exact .ok _
        · exact inductionHypothesis _
        · rename_i e back after outcome
          apply FailsBy.error
          apply fault_isUnserved
          rw [check] at outcome
          split at outcome
          · rcases ping_keeps (w.takeIdle pool.number) kept with ⟨result, answered⟩
            rw [answered] at outcome
            cases result <;> cases outcome
          · exact Error.isUnserved_of_interrupts (reposition_cutOff (congrArg Prod.fst outcome))
      · have waited := pool.awaitIdle_fails context ((context.upTo limit).deadline.getD limit)
          (pool.request w)
        split
        · exact inductionHypothesis _
        · rename_i e after outcome
          rw [outcome] at waited
          exact .error (fault_isUnserved waited.cause)

theorem acquire_fails (pool : Pool) (context : Context) (w : World Server Session) :
    FailsBy (fun e => e.isUnserved = true) (pool.acquire context w).1 := by
  rw [acquire]
  split
  · exact .error rfl
  · exact acquireBefore_fails pool context _ _ w

/-! ## Statements of callers -/

/-- What comes of a statement of a caller: it was not run, or it was run last, on a session that
stands on the scope of the pool.  All else was done by the pool and in the background. -/
inductive Served (licence : Licence) (scope : Scope) (pool : Pool) (sql : String)
    (w : World Server Session) {α : Type} : Except Error α × World Server Session -> Prop
  | unrun {result : Except Error α} {w' : World Server Session} (unserved : Unserved result)
      (passed : Passage licence [] w [] w') : Served licence scope pool sql w (result, w')
  | ran {result : Except Error α} {session : Session} {w' : World Server Session}
      (served : ¬ Unserved result) (passed : Passage licence [] w [session] w')
      (stands : StandsOn scope session) :
      Served licence scope pool sql w
        (result, (w'.say sql session).putBack pool.number (w'.server.rules.move session sql))

/-- What a caller makes of an outcome does not change what was run. -/
theorem Served.bind {α β : Type} {sql : String} {result : Except Error α}
    (served : Served licence scope pool sql w (result, w')) {next : α -> Except Error β}
    (own : forall value, FailsBy (fun e => e.isUnserved = false) (next value)) :
    Served licence scope pool sql w (result.bind next, w') := by
  cases served with
  | unrun unserved passed =>
      rcases unserved with ⟨e, rfl, unserved⟩
      exact .unrun ⟨e, rfl, unserved⟩ passed
  | ran served passed stands =>
      refine .ran ?_ passed stands
      cases result with
      | error e =>
          rintro ⟨_, ⟨⟩, unserved⟩
          exact served ⟨e, rfl, unserved⟩
      | ok value => exact not_unserved (own value)

theorem Served.map {α β : Type} {sql : String} {result : Except Error α}
    (served : Served licence scope pool sql w (result, w')) (f : α -> β) :
    Served licence scope pool sql w (result.map f, w') := by
  have mapped : result.map f = result.bind (fun value => .ok (f value)) := by cases result <;> rfl
  rw [mapped]
  exact served.bind fun value => .ok (f value)

/-- A statement that a server answers was run. -/
theorem execute_answers (w : World Server Session) (sql : String) (session : Session) :
    exists result, ¬ Unserved result ∧
      w.execute sql session = (result, w.server.rules.move session sql, w.say sql session) := by
  refine ⟨w.server.rules.count sql, not_unserved ?_, execute_eq rfl sql session⟩
  exact (w.server.rules.count_reported sql).mono fun _ => Error.isUnserved_of_reported

theorem query_answers (w : World Server Session) (sql : String) (session : Session) :
    exists result, ¬ Unserved result ∧
      w.query sql session = (result, w.server.rules.move session sql, w.say sql session) := by
  refine ⟨w.server.rules.rows sql, not_unserved ?_, query_eq rfl sql session⟩
  exact (w.server.rules.rows_reported sql).mono fun _ => Error.isUnserved_of_reported

section Calls

variable (within : pool.Within licence) (enters : licence.enters) (valid : scope.Valid)
  (pinned : scope.positions ≠ []) (same : pool.pinned = scope.positions)
include within enters valid pinned same

/-- A call gets a session, waits and runs its statement, and it can be cut short before that. -/
theorem served_of_acquire (operation : String) {α : Type} {context : Context} {sql : String}
    {answer : Except Error α × World Server Session}
    (unlent : forall e w1, pool.acquire context w = (.error e, w1) -> answer = (.error e, w1))
    (cut : forall session w1 e w2, pool.acquire context w = (.ok session, w1) ->
      w1.await context operation (w1.delay sql) = (.error e, w2) ->
      answer = (.error e, w2.putBack pool.number session))
    (runs : forall session w1 w2, pool.acquire context w = (.ok session, w1) ->
      w1.await context operation (w1.delay sql) = (.ok (), w2) ->
      exists result, ¬ Unserved result ∧ answer = (result,
        (w2.say sql session).putBack pool.number (w2.server.rules.move session sql))) :
    Served licence scope pool sql w answer := by
  have acquired := acquire_passage (w := w) within enters context
  have fails := pool.acquire_fails context w
  rcases lent : pool.acquire context w with ⟨e | session, w1⟩
  · rw [lent] at acquired fails
    rw [unlent e w1 lent]
    exact .unrun ⟨e, rfl, fails.cause⟩ acquired
  · rw [lent] at acquired
    rcases await_cases licence w1 context operation (w1.delay sql)
      with ⟨w2, passed, waited | ⟨e, cause, waited⟩⟩
    · rcases runs session w1 w2 lent waited with ⟨result, served, rfl⟩
      exact .ran served (acquired.trans (passed.lift [session]))
        (acquire_standsOn valid pinned same lent)
    · rw [cut session w1 e w2 lent waited]
      exact .unrun ⟨e, rfl, Error.isUnserved_of_interrupts cause⟩
        ((acquired.trans (passed.lift [session])).trans (.putBack pool.number))

theorem execute_served (context : Context) (sql : String) :
    Served licence scope pool sql w (pool.execute context sql w) := by
  apply served_of_acquire within enters valid pinned same "exec"
  · intro e w1 lent
    rw [execute, lent]
  · intro session w1 e w2 lent waited
    simp only [execute, lent, executeIn, waited]
  · intro session w1 w2 lent waited
    rcases execute_answers w2 sql session with ⟨result, served, ran⟩
    refine ⟨result, served, ?_⟩
    simp only [execute, lent, executeIn, waited, ran]

theorem query_served (context : Context) (sql : String) :
    Served licence scope pool sql w (pool.query context sql w) := by
  apply served_of_acquire within enters valid pinned same "query"
  · intro e w1 lent
    rw [query, lent]
  · intro session w1 e w2 lent waited
    simp only [query, lent, queryIn, waited]
  · intro session w1 w2 lent waited
    rcases query_answers w2 sql session with ⟨result, served, ran⟩
    refine ⟨result, served, ?_⟩
    simp only [query, lent, queryIn, waited, ran]

theorem queryText_served (context : Context) (sql : String) (format : Format) :
    Served licence scope pool sql w (pool.queryText context sql format w) :=
  (query_served within enters valid pinned same context sql).bind fun set =>
    (set.render_misfit format).mono fun _ => Error.isUnserved_of_misfit

end Calls
end Pool
end ScopedSql
