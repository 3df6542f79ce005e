import ScopedSql.Desk.Perform
import ScopedSql.Proofs.Scope
import ScopedSql.Proofs.World.Blame

namespace ScopedSql

/-!
# Bad input never reaches a server

A beginning and the opening of a pool look at names before they open a session,
and an action looks at its arguments before that.  All that comes later fails for
reasons of the server or of the context.  So a request that fails for what its
caller gave has not touched the server.
-/

variable {σ κ α : Type} {w : World σ κ} {tx : Transaction κ} {desk : Desk σ κ} {context : Context}

/-- An answer that blames the input comes before the server was touched. -/
def Harmless (w : World σ κ) (answer : Except Error α × World σ κ) : Prop :=
  forall e, answer.1 = .error e -> e.inInput = true -> answer.2.server = w.server

theorem Harmless.same (result : Except Error α) : Harmless w (result, w) :=
  fun _ _ _ => rfl

theorem Harmless.ofSober {answer : Except Error α × World σ κ} (sober : Sober answer.1) :
    Harmless w answer := by
  intro e failed blamed
  exact absurd ((sober e failed).symm.trans blamed) Bool.false_ne_true

/-- What comes of an error that is passed on is no worse. -/
theorem Harmless.pass {β : Type} {w' : World σ κ} {e : Error}
    (harmless : Harmless w ((.error e : Except Error α), w')) :
    Harmless w ((.error e : Except Error β), w') := by
  intro e' failed blamed
  cases failed
  exact harmless e rfl blamed

theorem Harmless.map {β : Type} {answer : Except Error α × World σ κ} (harmless : Harmless w answer)
    (f : α -> β) : Harmless w (answer.1.map f, answer.2) := by
  intro e failed blamed
  rcases answer with ⟨cause | value, w'⟩
  · cases failed
    exact harmless _ rfl blamed
  · cases failed

namespace Desk

theorem ofCaller_sober (outcome : Except String String) : Sober (ofCaller outcome) := by
  cases outcome with
  | ok text => exact .ok _
  | error text => exact .error rfl

theorem closePool_server (desk : Desk σ κ) : desk.closePool.world.server = desk.world.server := by
  rw [closePool]
  split <;> rfl

theorem closeActions_server (desk : Desk σ κ) :
    desk.closeActions.world.server = desk.world.server := by
  rw [closeActions]
  split <;> rfl

/-- An answer of a desk that blames the input comes before the server was touched. -/
def HarmlessTo (desk : Desk σ κ) (answer : Except Error Reply × Desk σ κ) : Prop :=
  forall e, answer.1 = .error e -> e.inInput = true ->
    answer.2.world.server = desk.world.server

theorem HarmlessTo.ofSober {answer : Except Error Reply × Desk σ κ} (sober : Sober answer.1) :
    HarmlessTo desk answer := by
  intro e failed blamed
  exact absurd ((sober e failed).symm.trans blamed) Bool.false_ne_true

theorem HarmlessTo.same (result : Except Error Reply) : HarmlessTo desk (result, desk) :=
  fun _ _ _ => rfl

/-- A desk passes on the error of a part of its work, before which the server was not touched. -/
theorem HarmlessTo.pass {desk' : Desk σ κ} {e : Error}
    (harmless : Harmless w ((.error e : Except Error α), desk'.world))
    (same : w.server = desk.world.server) : HarmlessTo desk (.error e, desk') := by
  intro e' failed blamed
  cases failed
  exact (harmless e rfl blamed).trans same

end Desk

variable [Backend σ κ]

namespace Transaction

variable (sober : Backend.Sober σ κ)
include sober

theorem rollback_sober (tx : Transaction κ) (w : World σ κ) : Sober (tx.rollback w).1 := by
  rw [rollback]
  cases tx.phase with
  | ended ending => exact .ok _
  | live session =>
      have ran := w.executeIn_sober sober w.cleanup "rollback" "ROLLBACK" session
      simp only
      generalize w.executeIn w.cleanup "rollback" "ROLLBACK" session = answer at ran ⊢
      rcases answer with ⟨e | count, session', w'⟩
      · exact ran.pass
      · exact .ok _

theorem commit_sober (tx : Transaction κ) (context : Context) (w : World σ κ) :
    Sober (tx.commit context w).1 := by
  rw [commit]
  cases tx.phase with
  | ended ending => exact .error rfl
  | live session =>
      have ran := w.executeIn_sober sober context "commit" "COMMIT" session
      simp only
      generalize w.executeIn context "commit" "COMMIT" session = answer at ran ⊢
      rcases answer with ⟨e | count, session', w'⟩
      · exact ran.pass
      · exact .ok _

theorem executeAs_sober (tx : Transaction κ) (context : Context) (operation sql : String)
    (w : World σ κ) : Sober (tx.executeAs context operation sql w).1 := by
  rw [executeAs]
  cases tx.phase with
  | ended ending => exact .error rfl
  | live session => exact w.executeIn_sober sober context operation sql session

theorem query_sober (tx : Transaction κ) (context : Context) (sql : String) (w : World σ κ) :
    Sober (tx.query context sql w).1 := by
  rw [query]
  cases tx.phase with
  | ended ending => exact .error rfl
  | live session => exact w.queryIn_sober sober context "query" sql session

theorem queryText_sober (tx : Transaction κ) (context : Context) (sql : String) (format : Format)
    (w : World σ κ) : Sober (tx.queryText context sql format w).1 :=
  (tx.query_sober sober context sql w).bind fun set => set.render_sober format

theorem bootstrap_sober (tx : Transaction κ) (context : Context) (sqls : List String)
    (w : World σ κ) : Sober (tx.bootstrap context sqls w).1 := by
  induction sqls generalizing tx w with
  | nil => exact .ok _
  | cons sql rest inductionHypothesis =>
      have ran := tx.executeAs_sober sober context "bootstrap" sql w
      rw [bootstrap]
      generalize tx.executeAs context "bootstrap" sql w = answer at ran ⊢
      rcases answer with ⟨e | count, tx', w'⟩
      · exact ran.pass
      · exact inductionHypothesis tx' w'

/-- Names are looked at before a session is opened, and after that nothing blames the input. -/
theorem begin_harmless (context : Context) (connector : Connector) (scope : Scope)
    (w : World σ κ) : Harmless w (begin context connector scope w) := by
  rw [begin]
  cases scope.statements with
  | error e => exact .same _
  | ok statements =>
      have opened := w.connectIn_sober sober context connector.target
      simp only
      generalize w.connectIn context connector.target = answer at opened ⊢
      rcases answer with ⟨e | session, w1⟩
      · exact .ofSober opened.pass
      · have begun := w1.executeIn_sober sober context "begin" "START TRANSACTION" session
        simp only
        generalize w1.executeIn context "begin" "START TRANSACTION" session = answer at begun ⊢
        rcases answer with ⟨e | count, session', w2⟩
        · exact .ofSober begun.pass
        · exact .ofSober (bootstrap_sober sober ⟨scope, .live session'⟩ context statements w2)

theorem finish_sober {outcome : Except Error α} (works : Sober outcome) (tx : Transaction κ)
    (context : Context) (w : World σ κ) : Sober (tx.finish context outcome w).1 := by
  cases outcome with
  | error e => exact works
  | ok value =>
      have sent := tx.commit_sober sober context w
      rw [finish]
      generalize tx.commit context w = answer at sent ⊢
      rcases answer with ⟨e | _, tx', w'⟩
      · exact sent.pass
      · exact .ok _

theorem beginWrite_harmless {body : Body σ κ α} (works : forall tx w, Sober (body tx w).1)
    (context : Context) (connector : Connector) (scope : Scope) (w : World σ κ) :
    Harmless w (beginWrite context connector scope body w) := by
  have begun := begin_harmless sober context connector scope w
  rw [beginWrite]
  generalize begin context connector scope w = answer at begun ⊢
  rcases answer with ⟨e | tx, w'⟩
  · exact begun.pass
  · exact .ofSober (finish_sober sober (works tx w') _ context _)

theorem beginReadOnly_harmless {body : Body σ κ α} (works : forall tx w, Sober (body tx w).1)
    (context : Context) (connector : Connector) (scope : Scope) (w : World σ κ) :
    Harmless w (beginReadOnly context connector scope body w) := by
  have begun := begin_harmless sober context connector scope w
  rw [beginReadOnly]
  generalize begin context connector scope w = answer at begun ⊢
  rcases answer with ⟨e | tx, w'⟩
  · exact begun.pass
  · exact .ofSober (works tx w')

end Transaction

namespace Command

variable (sober : Backend.Sober σ κ)
include sober

theorem run_sober (command : Command) (context : Context) (tx : Transaction κ) (w : World σ κ) :
    Sober (command.run context tx w).1 := by
  cases command with
  | execute sql => exact (tx.executeAs_sober sober context "exec" sql w).map _
  | query sql format => exact (tx.queryText_sober sober context sql format w).map _
  | rows sql => exact (tx.query_sober sober context sql w).map _
  | commit => exact (tx.commit_sober sober context w).map _
  | rollback => exact (tx.rollback_sober sober w).map _
  | cancel => exact .ok _
  | fail text => exact .error rfl

theorem runAll_sober (commands : List Command) (context : Context) (tx : Transaction κ)
    (w : World σ κ) : Sober (runAll context commands tx w).1 := by
  induction commands generalizing tx w with
  | nil => exact .ok _
  | cons command rest inductionHypothesis =>
      have ran := command.run_sober sober context tx w
      rw [runAll]
      generalize command.run context tx w = answer at ran ⊢
      rcases answer with ⟨e | reply, tx', w'⟩
      · exact ran.pass
      · exact (inductionHypothesis tx' w').map _

end Command

namespace Pool

/-- A check that is cut off is cut off by the end of its context. -/
theorem reposition_cutOff {sqls : List String} {session : κ} {e : Error}
    (cut : (reposition context sqls session w).1 = .cutOff e) : e.Interrupts "acquire" := by
  induction sqls generalizing session w with
  | nil => cases cut
  | cons sql rest inductionHypothesis =>
      have waited := w.await_fails context "acquire" (w.delay sql)
      rw [reposition] at cut
      generalize w.await context "acquire" (w.delay sql) = answer at waited cut
      rcases answer with ⟨e' | _, w1⟩
      · cases cut
        exact waited.cause
      · simp only at cut
        generalize w1.execute sql session = ran at cut
        rcases ran with ⟨e' | count, session', w2⟩
        · cases cut
        · exact inductionHypothesis cut

theorem check_cutOff {pool : Pool} {session : κ} {e : Error}
    (cut : (pool.check context session w).1 = .cutOff e) : e.inInput = false := by
  rw [check] at cut
  split at cut
  · generalize w.ping session = answered at cut
    rcases answered with ⟨e' | _, session', w'⟩ <;> cases cut
  · exact Error.not_inInput_of_interrupts (reposition_cutOff cut)

theorem fault_inInput {e : Error} (blameless : e.inInput = false) (context : Context)
    (limit : Nat) : (fault context limit e).inInput = false := by
  unfold fault
  repeat' split
  all_goals first | rfl | exact blameless

theorem awaitIdle_sober (pool : Pool) (context : Context) (limit : Nat) (w : World σ κ) :
    Sober (pool.awaitIdle context limit w).1 := by
  simp only [awaitIdle]
  intro e failed
  repeat' split at failed
  all_goals cases failed <;> rfl

theorem acquire_sober (pool : Pool) (context : Context) (w : World σ κ) :
    Sober (pool.acquire context w).1 := by
  have rounds : forall limit rounds (w : World σ κ),
      Sober (pool.acquireBefore context limit rounds w).1 := by
    intro limit rounds
    induction rounds with
    | zero => exact fun _ => .error rfl
    | succ rounds inductionHypothesis =>
        intro w
        rw [acquireBefore]
        split
        · split
          · exact .ok _
          · exact inductionHypothesis _
          · rename_i e session after outcome
            exact .error (fault_inInput (check_cutOff (congrArg Prod.fst outcome)) _ _)
        · have waited := pool.awaitIdle_sober context ((context.upTo limit).deadline.getD limit)
            (pool.request w)
          split
          · exact inductionHypothesis _
          · rename_i e after outcome
            rw [outcome] at waited
            exact .error (fault_inInput waited.cause _ _)
  rw [acquire]
  split
  · exact .error rfl
  · exact rounds _ _ w

variable (sober : Backend.Sober σ κ)
include sober

theorem execute_sober (pool : Pool) (context : Context) (sql : String) (w : World σ κ) :
    Sober (pool.execute context sql w).1 := by
  have acquired := pool.acquire_sober context w
  rw [execute]
  generalize pool.acquire context w = answer at acquired ⊢
  rcases answer with ⟨e | session, w'⟩
  · exact acquired.pass
  · exact w'.executeIn_sober sober context "exec" sql session

theorem query_sober (pool : Pool) (context : Context) (sql : String) (w : World σ κ) :
    Sober (pool.query context sql w).1 := by
  have acquired := pool.acquire_sober context w
  rw [query]
  generalize pool.acquire context w = answer at acquired ⊢
  rcases answer with ⟨e | session, w'⟩
  · exact acquired.pass
  · exact w'.queryIn_sober sober context "query" sql session

theorem queryText_sober (pool : Pool) (context : Context) (sql : String) (format : Format)
    (w : World σ κ) : Sober (pool.queryText context sql format w).1 :=
  (pool.query_sober sober context sql w).bind fun set => set.render_sober format

theorem start_harmless (context : Context) (connector : Connector) (scope : Scope)
    (w : World σ κ) : Harmless w (start context connector scope w) := by
  rw [start]
  cases scope.statements with
  | error e => exact .same _
  | ok pinned =>
      have opened := w.connectIn_sober sober context connector.target
      simp only
      generalize w.connectIn context connector.target = answer at opened ⊢
      rcases answer with ⟨e | session, w1⟩
      · exact .ofSober opened.pass
      · have pinged := w1.pingIn_sober sober context session
        simp only
        generalize w1.pingIn context session = answer at pinged ⊢
        rcases answer with ⟨e | _, session', w2⟩
        · exact .ofSober pinged.pass
        · exact .ofSober (.ok _)

end Pool

/-! ## Requests -/

theorem Actions.perform_harmless (sober : Backend.Sober σ κ) (actions : Actions)
    (context : Context) (action : Action) (arguments : Arguments) (w : World σ κ) :
    Harmless w (actions.perform context action arguments w) := by
  rw [perform]
  cases action.plan actions.classify arguments with
  | error e => exact .same _
  | ok plan =>
      cases plan with
      | pooled sql format =>
          exact .ofSober (actions.pool.queryText_sober sober context sql format w)
      | read scope sql format =>
          exact Transaction.beginReadOnly_harmless sober
            (fun tx w => tx.queryText_sober sober context sql format w) context actions.connector
            scope w
      | write scope sql report =>
          exact (Transaction.beginWrite_harmless sober
            (fun tx w => tx.executeAs_sober sober context "exec" sql w) context actions.connector
            scope w).map _

namespace Desk

variable (sober : Backend.Sober σ κ)
include sober

omit sober in
theorem work_harmless (desk : Desk σ κ) (name operation : String) (time : Nat)
    (outcome : Except String String) : HarmlessTo desk (desk.work name operation time outcome) := by
  have waited := desk.world.await_sober (desk.context name) operation time
  rw [work]
  generalize desk.world.await (desk.context name) operation time = answer at waited ⊢
  rcases answer with ⟨e | _, world⟩
  · exact .ofSober waited.pass
  · exact .ofSober (ofCaller_sober outcome)

theorem begin_harmless (desk : Desk σ κ) (context : Context) (name : String) (access : Access)
    (scope : Scope) : HarmlessTo desk (desk.begin context name access scope) := by
  rw [begin]
  cases access.connector with
  | error e => exact .same _
  | ok connector =>
      have begun := Transaction.begin_harmless sober context connector scope desk.world
      simp only
      generalize Transaction.begin context connector scope desk.world = answer at begun ⊢
      rcases answer with ⟨e | new, world⟩
      · exact .pass begun rfl
      · exact .ofSober (.ok _)

theorem command_harmless (desk : Desk σ κ) (context : Context) (name : String)
    (command : Command) : HarmlessTo desk (desk.command context name command) := by
  rw [Desk.command]
  split
  · exact .same _
  · exact .ofSober (command.run_sober sober _ _ _)

theorem finish_harmless (desk : Desk σ κ) (context : Context) (name : String)
    (outcome : Except String String) : HarmlessTo desk (desk.finish context name outcome) := by
  rw [finish]
  split
  · exact .same _
  · exact .ofSober (Transaction.finish_sober sober (ofCaller_sober outcome) _ _ _)

theorem transact_harmless (desk : Desk σ κ) (context : Context) (access : Access) (scope : Scope)
    (keep : Bool) (commands : List Command) :
    HarmlessTo desk (desk.transact context access scope keep commands) := by
  rw [transact]
  cases access.connector with
  | error e => exact .same _
  | ok connector =>
      have works : forall (tx : Transaction κ) (w : World σ κ),
          Sober (Command.runAll context commands tx w).1 :=
        fun tx w => Command.runAll_sober sober commands context tx w
      cases keep with
      | true => exact (Transaction.beginWrite_harmless sober works _ _ _ _).map Reply.list
      | false => exact (Transaction.beginReadOnly_harmless sober works _ _ _ _).map Reply.list

theorem openPool_harmless (desk : Desk σ κ) (context : Context) (access : Access)
    (scope : Scope) : HarmlessTo desk (desk.openPool context access scope) := by
  rw [openPool]
  cases access.connector with
  | error e => exact fun _ _ _ => desk.closePool_server
  | ok connector =>
      have started := Pool.start_harmless sober context connector (access.pinned scope)
        desk.closePool.world
      simp only
      generalize Pool.start context connector (access.pinned scope) desk.closePool.world = answer
        at started ⊢
      rcases answer with ⟨e | pool, world⟩
      · exact .pass started desk.closePool_server
      · exact .ofSober (.ok _)

theorem openActions_harmless (desk : Desk σ κ) (context : Context) (access : Access)
    (scope : Scope) (classify : Sql.Classifier) :
    HarmlessTo desk (desk.openActions context access scope classify) := by
  rw [openActions]
  cases access.connector with
  | error e => exact fun _ _ _ => desk.closeActions_server
  | ok connector =>
      have started := Pool.start_harmless sober context connector (access.pinned scope)
        desk.closeActions.world
      simp only
      generalize Pool.start context connector (access.pinned scope) desk.closeActions.world =
        answer at started ⊢
      rcases answer with ⟨e | pool, world⟩
      · exact .pass started desk.closeActions_server
      · exact .ofSober (.ok _)

omit sober [Backend σ κ] in
theorem withPool_harmless (desk : Desk σ κ)
    {use : Pool -> World σ κ -> Except Error Reply × World σ κ}
    (works : forall pool w, Sober (use pool w).1) : HarmlessTo desk (desk.withPool use) := by
  rw [withPool]
  split
  · exact .same _
  · rename_i pool _
    exact .ofSober (works pool desk.world)

theorem act_harmless (desk : Desk σ κ) (context : Context) (action : Action) (arguments : Json) :
    HarmlessTo desk (desk.act context action arguments) := by
  rw [act]
  split
  · exact .same _
  · split
    · exact .same _
    · rename_i actions _ _ given _
      exact (actions.perform_harmless sober context action given desk.world).map Reply.text

/-- A request that fails for what its caller gave has not touched the server. -/
theorem answer_harmless (desk : Desk σ κ) (request : Request) :
    HarmlessTo desk (desk.answer request) := by
  cases request with
  | newContext name time share => exact .ofSober (.ok _)
  | cleanupContext name => exact .ofSober (.ok _)
  | cancel name => exact .ofSober (.ok _)
  | cancelAfter name time => exact .ofSober (.ok _)
  | contextState name => exact .ofSober (.ok _)
  | work name operation time outcome => exact desk.work_harmless name operation time outcome
  | advance time => exact .ofSober (.ok _)
  | begin name tx access scope => exact desk.begin_harmless sober _ tx access scope
  | command name tx command => exact desk.command_harmless sober _ tx command
  | drop tx => exact .ofSober (.ok _)
  | forget tx => exact .ofSober (.ok _)
  | finish name tx outcome => exact desk.finish_harmless sober _ tx outcome
  | transact name access scope keep commands =>
      exact desk.transact_harmless sober _ access scope keep commands
  | openPool name access scope => exact desk.openPool_harmless sober _ access scope
  | openActions name access scope classify =>
      exact desk.openActions_harmless sober _ access scope classify
  | poolExecute name sql =>
      exact desk.withPool_harmless fun pool w => (pool.execute_sober sober _ sql w).map _
  | poolQuery name sql format =>
      exact desk.withPool_harmless fun pool w => (pool.queryText_sober sober _ sql format w).map _
  | poolRows name sql =>
      exact desk.withPool_harmless fun pool w => (pool.query_sober sober _ sql w).map _
  | poolTarget => exact desk.withPool_harmless fun pool w => .ok _
  | act name action arguments => exact desk.act_harmless sober _ action arguments

end Desk
end ScopedSql
