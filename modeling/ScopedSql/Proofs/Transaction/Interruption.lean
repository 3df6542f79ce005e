import ScopedSql.Proofs.Desk.Standing
import ScopedSql.Proofs.World.Blame
import ScopedSql.Proofs.World.Interruption

namespace ScopedSql

open Scripted World

/-!
# Statements that are cut off

Nobody but its transaction can use the session of a live transaction.  So a call
within a context tells by its result what became of the session: a statement was
cut off and did nothing, or it was run once and came to its own outcome.
-/

/-- The result says that the call was cut off by the end of its context. -/
def Interrupted {α : Type} (result : Except Error α) : Prop :=
  exists e, result = .error e ∧ e.isInterruption = true

/-- The result is not that of a call that was cut off. -/
theorem not_interrupted {α : Type} {result : Except Error α}
    (own : FailsBy (fun e => e.isInterruption = false) result) : ¬ Interrupted result := by
  rintro ⟨e, failed, cut⟩
  rw [own e failed] at cut
  cases cut

/-- A result that is passed on as it is was cut off exactly if what it is passed on as was. -/
theorem Interrupted.of_map {α β : Type} {result : Except Error α} {f : α -> β}
    (cut : Interrupted (result.map f)) : Interrupted result := by
  rcases cut with ⟨e, failed, cut⟩
  cases result with
  | error e' =>
      cases failed
      exact ⟨e, rfl, cut⟩
  | ok value => cases failed

/-- Whoever has the session can use it and nobody else, and it is not closed. -/
structure Exclusive (rules : Rules) (session : Session) (w : World Server Session) : Prop where
  tame : Tame (rules.licence True).shut w
  sameRules : w.server.rules = rules
  absent : (w.circulation []).Absent session.number
  unclosed : w.server.closings session.number = 0

/-- A statement that was cut off left the transaction, its session and the committed work as they
were.  Statements that were run meanwhile were run on other sessions, in the background. -/
structure Undone (tx tx' : Transaction Session) (session : Session)
    (w w' : World Server Session) : Prop where
  same : tx' = tx
  log : w'.server.log session.number = w.server.log session.number
  unclosed : w'.server.closings session.number = 0
  committed : w'.server.ledger.committed = w.server.ledger.committed
  others : w.server.RunsOn (fun other => other ≠ session.number ∧ w.Busy other) w'.server

/-- A statement was run once, when its time was over, while its context lasted.  It came to its
own outcome and did to the session and to the committed work what it does by itself. -/
structure Carried (rules : Rules) (context : Context) (sql : String)
    (tx tx' : Transaction Session) (session : Session) (w w' : World Server Session) {α : Type}
    (own result : Except Error α) : Prop where
  outcome : result = own
  moved : tx' = tx.withSession (rules.move session sql)
  once : w'.server.log session.number = w.server.log session.number ++ [session.entry sql]
  unclosed : w'.server.closings session.number = 0
  committed : w'.server.ledger.committed =
    w.server.ledger.committed ++ rules.delivery session sql
  last : exists waited : World Server Session, w' = waited.say sql session ∧
    w.server.RunsOn (fun other => other ≠ session.number ∧ w.Busy other) waited.server
  free : w'.isCancelled context = false
  inTime : w.delay sql = 0 ∨
    forall deadline, context.deadline = some deadline -> w.now + w.delay sql ≤ deadline
  complete : w'.now = w.now + w.delay sql

/-- The result of a call blames its context only for what the context did: its token was cancelled
before the statement was complete, or its deadline came first. -/
structure Blames (context : Context) (operation : String) (time : Nat)
    (w w' : World Server Session) {α : Type} (result : Except Error α) : Prop where
  cancelled : forall name, result = .error (.cancelled name) ->
    name = operation ∧ w'.isCancelled context = true ∧ (w' = w ∨ w'.now < w.now + time)
  timedOut : forall name, result = .error (.timedOut name) ->
    name = operation ∧ exists deadline, context.deadline = some deadline ∧
      deadline < w.now + time ∧ deadline ≤ w'.now

variable {rules : Rules} {context : Context} {operation sql : String} {session : Session}
  {tx : Transaction Session} {w w' : World Server Session} {α β : Type}

/-- A result that is not that of a call that was cut off blames nobody. -/
theorem Blames.ofSober {time : Nat} {result : Except Error α}
    (sober : FailsBy (fun e => e.isInterruption = false) result) :
    Blames context operation time w w' result :=
  ⟨fun _ failed => (nomatch sober _ failed), fun _ failed => (nomatch sober _ failed)⟩

namespace World

/-- Who cuts a statement off is to blame. -/
theorem Cause.blames {e : Error} {time : Nat} (cause : Cause context operation time w w' e) :
    Blames context operation time w w' (.error e : Except Error α) := by
  cases cause with
  | cancelled cancelled early =>
      refine ⟨?_, by rintro _ ⟨⟩⟩
      rintro _ ⟨⟩
      exact ⟨rfl, cancelled, early⟩
  | timedOut given short reached =>
      refine ⟨by rintro _ ⟨⟩, ?_⟩
      rintro _ ⟨⟩
      exact ⟨rfl, _, given, short, reached⟩

theorem Cause.interrupted {e : Error} {time : Nat}
    (cause : Cause context operation time w w' e) : Interrupted (.error e : Except Error α) := by
  cases cause with
  | cancelled cancelled early => exact ⟨_, rfl, rfl⟩
  | timedOut given short reached => exact ⟨_, rfl, rfl⟩

/-- What a caller makes of an outcome does not change what the attempt did. -/
theorem Trial.bind {own : Except Error α} {result : Except Error α} {session' : Session}
    (trial : Trial rules context operation sql session w own (result, session', w'))
    (next : α -> Except Error β) :
    Trial rules context operation sql session w (own.bind next)
      (result.bind next, session', w') := by
  cases trial with
  | cut meanwhile passed cause => exact .cut meanwhile passed cause
  | ran meanwhile passed free inTime now => exact .ran meanwhile passed free inTime now

end World

namespace Exclusive

theorem passage (exclusive : Exclusive rules session w)
    (passed : Passage (rules.licence True).shut [] w [] w') : Exclusive rules session w' := by
  have conduct := passed.conduct exclusive.tame
  rcases conduct.bystander exclusive.absent with ⟨absent, _, closings⟩
  exact ⟨passed.tame exclusive.tame, conduct.rules.trans exclusive.sameRules, absent,
    closings.trans exclusive.unclosed⟩

/-- Whatever comes of a statement, the session is still one's own. -/
theorem trial (exclusive : Exclusive rules session w) {own : Except Error α}
    {answer : Except Error α × Session × World Server Session}
    (trial : Trial rules context operation sql session w own answer) :
    Exclusive rules answer.2.1 answer.2.2 := by
  cases trial with
  | cut meanwhile passed cause => exact exclusive.passage passed
  | @ran waited meanwhile passed free inTime now =>
      have still := exclusive.passage passed
      have number : (rules.move session sql).number = session.number := Rules.move_number _ _ _
      exact ⟨⟨still.tame.ordered, still.tame.spoken, still.tame.prompt⟩, still.sameRules,
        number ▸ ⟨still.absent.opened, still.absent.absent⟩, number ▸ still.unclosed⟩

end Exclusive

/-- What is left of a statement on a session after the others had their way for a while. -/
theorem World.Meanwhile.say (meanwhile : Meanwhile session.number w w')
    (same : w.server.rules = rules) (sql : String) :
    (w'.say sql session).server.log session.number =
        w.server.log session.number ++ [session.entry sql] ∧
      (w'.say sql session).server.ledger.committed =
        w.server.ledger.committed ++ rules.delivery session sql := by
  constructor
  · rw [← meanwhile.log]
    exact Server.afterRun_log_self _ _ _
  · rw [← meanwhile.committed, ← same, ← meanwhile.sameRules]
    rfl

/-- A session that was not closed before is closed once. -/
theorem World.Meanwhile.close (meanwhile : Meanwhile session.number w w')
    (unclosed : w.server.closings session.number = 0) :
    (w'.close session).server.closings session.number = 1 :=
  (Server.close_closings_self _ _).trans
    (congrArg Nat.succ (meanwhile.closings.trans unclosed))

/-! ## Statements -/

/-- The answer to a statement in a live transaction is honest. -/
structure Candid (rules : Rules) (context : Context) (operation sql : String)
    (tx : Transaction Session) (session : Session) (w : World Server Session)
    (own : Except Error α)
    (answer : Except Error α × Transaction Session × World Server Session) : Prop where
  unrun : Interrupted answer.1 ↔
    answer.2.2.server.log session.number = w.server.log session.number
  undone : Interrupted answer.1 -> Undone tx answer.2.1 session w answer.2.2
  carried : ¬ Interrupted answer.1 ->
    Carried rules context sql tx answer.2.1 session w answer.2.2 own answer.1
  blames : Blames context operation (w.delay sql) w answer.2.2 answer.1

/-- What an attempt did shows in its result. -/
theorem World.Trial.candid {own result : Except Error α} {session' : Session}
    (trial : Trial rules context operation sql session w own (result, session', w'))
    (exclusive : Exclusive rules session w) (live : tx.phase = .live session)
    (sober : FailsBy (fun e => e.isInterruption = false) own) :
    Candid rules context operation sql tx session w own
      (result, tx.withSession session', w') := by
  cases trial with
  | cut meanwhile passed cause =>
      have same : tx.withSession session = tx := by rw [Transaction.withSession, ← live]
      exact
        { unrun := iff_of_true cause.interrupted meanwhile.log
          undone := fun _ => ⟨same, meanwhile.log, meanwhile.closings.trans exclusive.unclosed,
            meanwhile.committed, meanwhile.runs⟩
          carried := fun other => absurd cause.interrupted other
          blames := cause.blames }
  | @ran waited meanwhile passed free inTime now =>
      rcases meanwhile.say exclusive.sameRules sql with ⟨once, committed⟩
      have other : ¬ Interrupted own := not_interrupted sober
      refine ⟨iff_of_false other ?_, fun cut => absurd cut other, ?_, ?_⟩
      · rw [once]
        exact fun same => absurd (List.append_right_eq_self.mp same) (List.cons_ne_nil _ _)
      · exact fun _ =>
          { outcome := rfl
            moved := rfl
            once := once
            unclosed := meanwhile.closings.trans exclusive.unclosed
            committed := committed
            last := ⟨waited, rfl, meanwhile.runs⟩
            free := free
            inTime := inTime
            complete := now }
      · exact .ofSober sober

namespace World

/-- What the server answers to a statement is nobody's interruption. -/
theorem execute_fails (w : World Server Session) (sql : String) (session : Session) :
    FailsBy (fun e => e.isInterruption = false) (w.execute sql session).1 := by
  rw [execute_eq rfl]
  exact (w.server.rules.count_reported sql).mono fun _ => Error.isInterruption_of_reported

theorem query_fails (w : World Server Session) (sql : String) (session : Session) :
    FailsBy (fun e => e.isInterruption = false) (w.query sql session).1 := by
  rw [query_eq rfl]
  exact (w.server.rules.rows_reported sql).mono fun _ => Error.isInterruption_of_reported

end World

/-- A result that does not fit its columns was not cut off. -/
theorem Error.isInterruption_of_misfit {e : Error} (misfit : e.isMisfit = true) :
    e.isInterruption = false := by
  cases e with
  | missingColumn column => rfl
  | execution fault => rfl
  | _ => cases misfit

namespace Transaction

variable (exclusive : Exclusive rules session w) (live : tx.phase = .live session)
include live

theorem execute_of_live (context : Context) (sql : String) :
    tx.execute context sql w =
      ((w.executeIn context "exec" sql session).1,
        tx.withSession (w.executeIn context "exec" sql session).2.1,
        (w.executeIn context "exec" sql session).2.2) := by
  rw [execute, executeAs, live]

/-- Nothing is run within a context that is cancelled already. -/
theorem execute_of_cancelled (cancelled : w.isCancelled context = true) (sql : String) :
    tx.execute context sql w = (.error (.cancelled "exec"), tx, w) := by
  have same : tx.withSession session = tx := by rw [withSession, ← live]
  rw [execute_of_live live, executeIn, await_of_cancelled cancelled]
  simp only [same]

theorem query_of_live (context : Context) (sql : String) :
    tx.query context sql w =
      ((w.queryIn context "query" sql session).1,
        tx.withSession (w.queryIn context "query" sql session).2.1,
        (w.queryIn context "query" sql session).2.2) := by
  rw [query, live]

theorem query_of_cancelled (cancelled : w.isCancelled context = true) (sql : String) :
    tx.query context sql w = (.error (.cancelled "query"), tx, w) := by
  have same : tx.withSession session = tx := by rw [withSession, ← live]
  rw [query_of_live live, queryIn, await_of_cancelled cancelled]
  simp only [same]

theorem commit_of_cancelled (cancelled : w.isCancelled context = true) :
    (tx.commit context w).1 = .error (.cancelled "commit") := by
  rw [commit, live]
  simp only [executeIn, await_of_cancelled cancelled]

include exclusive

theorem execute_candid (context : Context) (sql : String) :
    Candid rules context "exec" sql tx session w (w.execute sql session).1
      (tx.execute context sql w) := by
  rw [execute_of_live live]
  exact (executeIn_trial exclusive.tame exclusive.sameRules exclusive.absent context "exec"
    sql).candid exclusive live (w.execute_fails sql session)

theorem query_candid (context : Context) (sql : String) :
    Candid rules context "query" sql tx session w (w.query sql session).1
      (tx.query context sql w) := by
  rw [query_of_live live]
  exact (queryIn_trial exclusive.tame exclusive.sameRules exclusive.absent context "query"
    sql).candid exclusive live (w.query_fails sql session)

theorem queryText_candid (context : Context) (sql : String) (format : Format) :
    Candid rules context "query" sql tx session w
      ((w.query sql session).1.bind (fun set => set.render format))
      (tx.queryText context sql format w) := by
  have trial := queryIn_trial exclusive.tame exclusive.sameRules exclusive.absent context "query"
    sql
  rw [queryText, query_of_live live]
  refine (Trial.bind trial _).candid exclusive live ?_
  exact (w.query_fails sql session).bind fun set =>
    (set.render_misfit format).mono fun _ => Error.isInterruption_of_misfit

end Transaction

end ScopedSql
