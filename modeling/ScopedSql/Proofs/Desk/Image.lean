import ScopedSql.Desk.Perform
import ScopedSql.Proofs.Transaction.Image

namespace ScopedSql

open World

/-!
# Desks over a server that is seen as another

Pools, actions and desks do not look into the server any more than transactions
do.  So a run of requests on what is seen of a server is what is seen of the run.
-/

variable {σ τ κ : Type} [Backend σ κ] [Backend τ κ] {see : σ -> τ} (seen : Backend.Seen see)

namespace Pool

variable (pool : Pool) (context : Context) (w : World σ κ)

section Pools
include seen

theorem image_start (connector : Connector) (scope : Scope) :
    start context connector scope (w.image see) =
      ((start context connector scope w).1, (start context connector scope w).2.image see) := by
  rw [start, start]
  split
  · rfl
  · rw [image_connectIn seen]
    rcases w.connectIn context connector.target with ⟨e | session, w'⟩
    · rfl
    · simp only [image_pingIn seen]
      rcases w'.pingIn context session with ⟨e | _, session', w2⟩
      · exact congrArg (fun w => (_, w)) (World.image_close seen w2 session')
      · simp only [World.image_close seen]
        rfl

theorem image_reposition (sqls : List String) (session : κ) (w : World σ κ) :
    reposition context sqls session (w.image see) =
      ((reposition context sqls session w).1, (reposition context sqls session w).2.1,
        (reposition context sqls session w).2.2.image see) := by
  induction sqls generalizing session w with
  | nil => rfl
  | cons sql rest inductionHypothesis =>
      rw [reposition, reposition, image_delay seen, image_await seen]
      rcases w.await context "acquire" (w.delay sql) with ⟨e | _, w'⟩
      · rfl
      · simp only [image_execute seen]
        rcases w'.execute sql session with ⟨e | count, session', w2⟩
        · rfl
        · exact inductionHypothesis session' w2

theorem image_check (session : κ) : pool.check context session (w.image see) =
    ((pool.check context session w).1, (pool.check context session w).2.1,
      (pool.check context session w).2.2.image see) := by
  rw [check, check]
  split
  · rw [image_ping seen]
    rcases w.ping session with ⟨e | _, session', w'⟩ <;> rfl
  · exact image_reposition seen context pool.pinned session w

omit [Backend σ κ] [Backend τ κ] seen in
theorem image_request : pool.request (w.image see) = (pool.request w).image see := by
  have opening : (w.image see).isOpening pool.number = w.isOpening pool.number := rfl
  rw [request, request, opening]
  split <;> rfl

theorem image_awaitIdle (limit : Nat) : pool.awaitIdle context limit (w.image see) =
    ((pool.awaitIdle context limit w).1, (pool.awaitIdle context limit w).2.image see) := by
  have cancelled : forall w : World σ κ, (w.image see).isCancelled context =
      w.isCancelled context := fun _ => rfl
  have idle : forall w : World σ κ, (w.image see).idle? pool.number = w.idle? pool.number :=
    fun _ => rfl
  have elapsed : (w.image see).elapse
        (fun w => w.isCancelled context || (w.idle? pool.number).isSome) limit =
      (w.elapse (fun w => w.isCancelled context || (w.idle? pool.number).isSome) limit).image see :=
    image_elapse seen w (fun _ => rfl) limit
  have now : (w.image see).now = w.now := rfl
  simp only [awaitIdle, cancelled, idle, elapsed, now]
  repeat' split
  all_goals rfl

theorem image_acquireBefore (limit rounds : Nat) (w : World σ κ) :
    pool.acquireBefore context limit rounds (w.image see) =
      ((pool.acquireBefore context limit rounds w).1,
        (pool.acquireBefore context limit rounds w).2.image see) := by
  induction rounds generalizing w with
  | zero => rfl
  | succ rounds inductionHypothesis =>
      have idle : (w.image see).idle? pool.number = w.idle? pool.number := rfl
      have taken : (w.image see).takeIdle pool.number = (w.takeIdle pool.number).image see := rfl
      rw [acquireBefore, acquireBefore, idle]
      split
      · rename_i session keeps
        rw [taken, image_check seen]
        rcases pool.check (context.upTo limit) session (w.takeIdle pool.number)
          with ⟨_ | _ | e, session', w'⟩
        · rfl
        · exact inductionHypothesis w'
        · exact congrArg (fun w => (_, w)) (World.image_putBack w' pool.number session')
      · rw [image_request, image_awaitIdle seen]
        rcases pool.awaitIdle context ((context.upTo limit).deadline.getD limit) (pool.request w)
          with ⟨e | _, w'⟩
        · rfl
        · exact inductionHypothesis w'

theorem image_acquire : pool.acquire context (w.image see) =
    ((pool.acquire context w).1, (pool.acquire context w).2.image see) := by
  have cancelled : (w.image see).isCancelled context = w.isCancelled context := rfl
  rw [acquire, acquire, cancelled]
  split
  · rfl
  · exact image_acquireBefore seen pool context _ _ w

theorem image_execute (sql : String) : pool.execute context sql (w.image see) =
    ((pool.execute context sql w).1, (pool.execute context sql w).2.image see) := by
  rw [execute, execute, image_acquire seen]
  rcases pool.acquire context w with ⟨e | session, w'⟩
  · rfl
  · simp only [image_executeIn seen, World.image_putBack]

theorem image_query (sql : String) : pool.query context sql (w.image see) =
    ((pool.query context sql w).1, (pool.query context sql w).2.image see) := by
  rw [query, query, image_acquire seen]
  rcases pool.acquire context w with ⟨e | session, w'⟩
  · rfl
  · simp only [image_queryIn seen, World.image_putBack]

theorem image_queryText (sql : String) (format : Format) :
    pool.queryText context sql format (w.image see) =
      ((pool.queryText context sql format w).1,
        (pool.queryText context sql format w).2.image see) := by
  rw [queryText, queryText, image_query seen]

end Pools
end Pool

theorem Actions.image_perform (seen : Backend.Seen see) (actions : Actions) (context : Context)
    (action : Action) (arguments : Arguments) (w : World σ κ) :
    actions.perform context action arguments (w.image see) =
      ((actions.perform context action arguments w).1,
        (actions.perform context action arguments w).2.image see) := by
  rw [perform, perform]
  split
  · rfl
  · rename_i plan made
    cases plan with
    | pooled sql format => exact Pool.image_queryText seen _ context w sql format
    | read scope sql format =>
        exact Transaction.image_beginReadOnly seen context w
          (fun tx w => Transaction.image_queryText seen tx context w sql format) _ scope
    | write scope sql report =>
        have same : Transaction.Body.Seen see (fun tx (w : World σ κ) => tx.execute context sql w)
            (fun tx w => tx.execute context sql w) :=
          fun tx w => Transaction.image_executeAs seen tx context w "exec" sql
        simp only [carryOut, Transaction.image_beginWrite seen context w same]

namespace Desk

/-- The desk after some requests. -/
def performAll (desk : Desk σ κ) (requests : List Request) : Desk σ κ :=
  requests.foldl (fun desk request => (desk.perform request).2) desk

/-- The desk over what is seen of the server. -/
def image (desk : Desk σ κ) (see : σ -> τ) : Desk τ κ :=
  { world := desk.world.image see, contexts := desk.contexts,
    transactions := desk.transactions, pool := desk.pool, actions := desk.actions }

variable (desk : Desk σ κ)

/-- An answer as it is seen. -/
def imageOf (see : σ -> τ) (answer : Except Error Reply × Desk σ κ) :
    Except Error Reply × Desk τ κ :=
  (answer.1, answer.2.image see)

include seen

theorem image_begin (context : Context) (name : String) (access : Access) (scope : Scope) :
    (desk.image see).begin context name access scope =
      imageOf see (desk.begin context name access scope) := by
  have world : (desk.image see).world = desk.world.image see := rfl
  have found : (desk.image see).transaction? name = desk.transaction? name := rfl
  rw [Desk.begin, Desk.begin, world, found]
  cases access.connector with
  | error e => rfl
  | ok connector =>
      simp only [Transaction.image_begin seen]
      rcases Transaction.begin context connector scope desk.world with ⟨e | new, w'⟩
      · rfl
      · cases desk.transaction? name with
        | none => rfl
        | some old =>
            simp only [Option.map_some, Option.getD_some, Transaction.image_drop seen]
            rfl

theorem image_command (context : Context) (name : String) (command : Command) :
    (desk.image see).command context name command =
      imageOf see (desk.command context name command) := by
  have world : (desk.image see).world = desk.world.image see := rfl
  have found : (desk.image see).transaction? name = desk.transaction? name := rfl
  rw [Desk.command, Desk.command, world, found]
  cases desk.transaction? name with
  | none => rfl
  | some tx =>
      simp only [Command.image_run seen]
      rfl

theorem image_drop (attended : Bool) (name : String) :
    (desk.image see).drop attended name = (desk.drop attended name).image see := by
  have world : (desk.image see).world = desk.world.image see := rfl
  have found : (desk.image see).transaction? name = desk.transaction? name := rfl
  rw [Desk.drop, Desk.drop, world, found]
  cases desk.transaction? name with
  | none => rfl
  | some tx =>
      simp only [Transaction.image_drop seen]
      rfl

theorem image_finish (context : Context) (name : String) (outcome : Except String String) :
    (desk.image see).finish context name outcome =
      imageOf see (desk.finish context name outcome) := by
  have world : (desk.image see).world = desk.world.image see := rfl
  have found : (desk.image see).transaction? name = desk.transaction? name := rfl
  rw [Desk.finish, Desk.finish, world, found]
  cases desk.transaction? name with
  | none => rfl
  | some tx =>
      simp only [Transaction.image_finish seen]
      rfl

theorem image_transact (context : Context) (access : Access) (scope : Scope) (keep : Bool)
    (commands : List Command) :
    (desk.image see).transact context access scope keep commands =
      imageOf see (desk.transact context access scope keep commands) := by
  have world : (desk.image see).world = desk.world.image see := rfl
  rw [Desk.transact, Desk.transact, world]
  cases access.connector with
  | error e => rfl
  | ok connector =>
      have same := Command.image_runAll seen context commands
      cases keep with
      | true =>
          simp only [if_true, Transaction.image_beginWrite seen context _ same]
          rfl
      | false =>
          simp only [Bool.false_eq_true, if_false,
            Transaction.image_beginReadOnly seen context _ same]
          rfl

theorem image_openPool (context : Context) (access : Access) (scope : Scope) :
    (desk.image see).openPool context access scope =
      imageOf see (desk.openPool context access scope) := by
  have closed : (desk.image see).closePool = desk.closePool.image see := by
    have pool : (desk.image see).pool = desk.pool := rfl
    rw [closePool, closePool, pool]
    cases desk.pool <;> rfl
  have world : (desk.closePool.image see).world = desk.closePool.world.image see := rfl
  rw [Desk.openPool, Desk.openPool, closed]
  cases access.connector with
  | error e => rfl
  | ok connector =>
      simp only [world, Pool.image_start seen]
      rcases Pool.start context connector (access.pinned scope) desk.closePool.world
        with ⟨e | pool, w'⟩ <;> rfl

theorem image_openActions (context : Context) (access : Access) (scope : Scope)
    (classify : Sql.Classifier) :
    (desk.image see).openActions context access scope classify =
      imageOf see (desk.openActions context access scope classify) := by
  have closed : (desk.image see).closeActions = desk.closeActions.image see := by
    have actions : (desk.image see).actions = desk.actions := rfl
    rw [closeActions, closeActions, actions]
    cases desk.actions <;> rfl
  have world : (desk.closeActions.image see).world = desk.closeActions.world.image see := rfl
  rw [Desk.openActions, Desk.openActions, closed]
  cases access.connector with
  | error e => rfl
  | ok connector =>
      simp only [world, Pool.image_start seen]
      rcases Pool.start context connector (access.pinned scope) desk.closeActions.world
        with ⟨e | pool, w'⟩ <;> rfl

omit seen [Backend σ κ] [Backend τ κ] in
theorem image_withPool {use : Pool -> World σ κ -> Except Error Reply × World σ κ}
    {use' : Pool -> World τ κ -> Except Error Reply × World τ κ}
    (same : forall pool w, use' pool (w.image see) = ((use pool w).1, (use pool w).2.image see)) :
    (desk.image see).withPool use' = imageOf see (desk.withPool use) := by
  have world : (desk.image see).world = desk.world.image see := rfl
  have found : (desk.image see).pool? = desk.pool? := rfl
  rw [withPool, withPool, world, found]
  cases desk.pool? with
  | none => rfl
  | some pool =>
      simp only [same]
      rfl

theorem image_act (context : Context) (action : Action) (arguments : Json) :
    (desk.image see).act context action arguments =
      imageOf see (desk.act context action arguments) := by
  have world : (desk.image see).world = desk.world.image see := rfl
  have found : (desk.image see).actions = desk.actions := rfl
  rw [Desk.act, Desk.act, world, found]
  cases desk.actions with
  | none => rfl
  | some actions =>
      cases Arguments.ofJson arguments with
      | error e => rfl
      | ok given =>
          simp only [Actions.image_perform seen]
          rfl

/-! ## Requests -/

theorem image_answer (request : Request) :
    (desk.image see).answer request = imageOf see (desk.answer request) := by
  have context : forall name, (desk.image see).context name = desk.context name := fun _ => rfl
  have world : (desk.image see).world = desk.world.image see := rfl
  cases request with
  | newContext name time share => cases share <;> rfl
  | cleanupContext name => rfl
  | cancel name =>
      rw [answer, answer, cancel, cancel, context]
      cases (desk.context name).token <;> rfl
  | cancelAfter name time =>
      rw [answer, answer, cancelAfter, cancelAfter, context]
      cases (desk.context name).token <;> rfl
  | contextState name => rfl
  | work name operation time outcome =>
      rw [answer, answer, work, work, context, world, image_await seen]
      rcases desk.world.await (desk.context name) operation time with ⟨e | _, w'⟩ <;> rfl
  | advance time =>
      rw [answer, answer, world, image_advance seen]
      rfl
  | begin name tx access scope => exact image_begin seen desk _ tx access scope
  | command name tx command => exact image_command seen desk _ tx command
  | drop tx =>
      rw [answer, answer, image_drop seen]
      rfl
  | forget tx =>
      rw [answer, answer, image_drop seen]
      rfl
  | finish name tx outcome => exact image_finish seen desk _ tx outcome
  | transact name access scope keep commands =>
      exact image_transact seen desk _ access scope keep commands
  | openPool name access scope => exact image_openPool seen desk _ access scope
  | poolExecute name sql =>
      rw [answer, answer, context]
      apply image_withPool desk
      intro pool w
      simp only [Pool.image_execute seen]
  | poolQuery name sql format =>
      rw [answer, answer, context]
      apply image_withPool desk
      intro pool w
      simp only [Pool.image_queryText seen]
  | poolRows name sql =>
      rw [answer, answer, context]
      apply image_withPool desk
      intro pool w
      simp only [Pool.image_query seen]
  | poolTarget =>
      rw [answer, answer]
      exact image_withPool desk (fun _ _ => rfl)
  | openActions name access scope classify =>
      exact image_openActions seen desk _ access scope classify
  | act name action arguments => exact image_act seen desk _ action arguments

theorem image_perform (request : Request) :
    (desk.image see).perform request = imageOf see (desk.perform request) := by
  rw [perform, perform, image_answer seen]
  exact congrArg (fun w => (_, { desk.answer request |>.2.image see with world := w }))
    (image_settle seen _)

theorem image_performAll (requests : List Request) :
    (desk.image see).performAll requests = (desk.performAll requests).image see := by
  induction requests generalizing desk with
  | nil => rfl
  | cons request rest inductionHypothesis =>
      rw [performAll, List.foldl_cons, image_perform seen]
      exact inductionHypothesis _

end Desk
end ScopedSql
