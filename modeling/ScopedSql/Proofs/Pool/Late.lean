import ScopedSql.Proofs.Pool.Passage
import ScopedSql.Proofs.Transaction.Late

namespace ScopedSql

open Scripted World

/-!
# Pools after a deadline

A pool has nothing to wait for after a deadline.  If it keeps a session, it puts
this one through the statements of its scope as far as they take no time, and a
caller gets it only if all of them do.  If it keeps none, there is none to be
had in time.
-/

variable {rules : Rules} {context : Context} {pool : Pool} {sqls sent : List String} {sql : String}
  {session : Session} {w : World Server Session} {α : Type}

/-! ## Statements one after the other -/

/-- What is noted of statements is noted of their session. -/
theorem Scripted.Rules.transcript_session (rules : Rules) (session : Session)
    (sqls : List String) :
    forall entry, entry ∈ rules.transcript session sqls -> entry.session = session.number := by
  induction sqls generalizing session with
  | nil => exact fun _ member => nomatch member
  | cons sql rest inductionHypothesis =>
      intro entry member
      rcases List.mem_cons.mp member with rfl | member
      · rfl
      · exact (inductionHypothesis _ entry member).trans (move_number _ _ _)

namespace Scripted.Server

/-- The server after some statements on a session, whatever comes of them. -/
def afterAll (server : Server) : Session -> List String -> Server
  | _, [] => server
  | session, sql :: rest =>
    (server.afterRun session sql).afterAll (server.rules.move session sql) rest

theorem afterAll_append (server : Server) (session : Session) (before after : List String) :
    server.afterAll session (before ++ after) =
      (server.afterAll session before).afterAll (server.rules.replay session before) after := by
  induction before generalizing server session with
  | nil => rfl
  | cons sql rest inductionHypothesis => exact inductionHypothesis _ _

theorem afterAll_rules (server : Server) (session : Session) (sqls : List String) :
    (server.afterAll session sqls).rules = server.rules := by
  induction sqls generalizing server session with
  | nil => rfl
  | cons sql rest inductionHypothesis => exact inductionHypothesis _ _

theorem afterAll_entries (server : Server) (session : Session) (sqls : List String) :
    (server.afterAll session sqls).ledger.entries =
      server.ledger.entries ++ server.rules.transcript session sqls := by
  induction sqls generalizing server session with
  | nil => exact (List.append_nil _).symm
  | cons sql rest inductionHypothesis =>
      rw [afterAll, inductionHypothesis]
      exact List.append_assoc _ _ _

theorem afterAll_log (server : Server) (session : Session) (sqls : List String) :
    (server.afterAll session sqls).log session.number =
      server.log session.number ++ server.rules.transcript session sqls := by
  rw [log, afterAll_entries, List.filter_append]
  congr 1
  rw [List.filter_eq_self]
  exact fun entry member =>
    decide_eq_true (server.rules.transcript_session session sqls entry member)

/-- Statements that do not commit make nothing durable. -/
theorem afterAll_committed (server : Server) (session : Session)
    (quiet : forall sql, sql ∈ sqls -> server.rules.Quiet sql) :
    (server.afterAll session sqls).ledger.committed = server.ledger.committed := by
  induction sqls generalizing server session with
  | nil => rfl
  | cons sql rest inductionHypothesis =>
      have others := inductionHypothesis (server.afterRun session sql)
        (server.rules.move session sql)
        fun statement member => quiet statement (List.mem_cons_of_mem _ member)
      rw [afterAll, others, afterRun_committed,
        Rules.delivery_of_quiet (quiet sql List.mem_cons_self), List.append_nil]

end Scripted.Server

/-! ## Sessions that are lent -/

namespace Pool

/-- A check after the deadline puts a session through a part of some statements.  It passes only if
it comes to their end. -/
structure Checks (sqls : List String) (session : Session) (w : World Server Session)
    (sent : List String) (answer : Checked × Session × World Server Session) : Prop where
  part : sent <+: sqls
  instant : w.server.rules.Instant sent
  complete : answer.1 = .passed -> sent = sqls
  moved : answer.2.1 = w.server.rules.replay session sent
  world : answer.2.2 = { w with server := w.server.afterAll session sent }

theorem reposition_late (late : Late context w) (sqls : List String) (session : Session) :
    exists sent, Checks sqls session w sent (reposition context sqls session w) := by
  induction sqls generalizing session w with
  | nil => exact ⟨[], ⟨List.nil_prefix, .nil, fun _ => rfl, rfl, rfl⟩⟩
  | cons sql rest inductionHypothesis =>
      have unsent : forall e, Checks (sql :: rest) session w [] (.cutOff e, session, w) :=
        fun e => ⟨List.nil_prefix, .nil, by simp, rfl, rfl⟩
      rw [reposition, late.await]
      cases w.isCancelled context with
      | true => exact ⟨[], unsent _⟩
      | false =>
          by_cases slow : w.delay sql = 0
          · have instant : w.server.rules.Instant [sql] := .singleton slow
            rcases execute_moves w sql session with ⟨e | count, ran⟩
            · simp only [Bool.false_eq_true, if_false, if_pos slow, ran]
              exact ⟨[sql], List.prefix_append [sql] rest, instant,
                by simp, rfl, rfl⟩
            · rcases inductionHypothesis (w := w.say sql session) (late.of_same rfl rfl)
                (w.server.rules.move session sql)
                with ⟨sent, checks⟩
              simp only [Bool.false_eq_true, if_false, if_pos slow, ran]
              exact ⟨sql :: sent, (List.prefix_append_right_inj [sql]).mpr checks.part,
                instant.append checks.instant,
                fun passed => congrArg (List.cons sql) (checks.complete passed), checks.moved,
                checks.world⟩
          · simp only [Bool.false_eq_true, if_false, if_neg slow]
            exact ⟨[], unsent _⟩

theorem check_late (late : Late context w) (pool : Pool) (session : Session) :
    exists sent, Checks pool.pinned session w sent (pool.check context session w) := by
  rw [check]
  split
  · rename_i unpinned
    rcases ping_keeps w session with ⟨result, answered⟩
    have none := List.isEmpty_iff.mp unpinned
    rw [answered]
    refine ⟨[], List.nil_prefix, .nil, fun _ => none.symm, ?_, ?_⟩ <;> cases result <;> rfl
  · exact reposition_late late pool.pinned session

/-- No session can be had after the deadline if the pool keeps none. -/
theorem acquireBefore_of_none (late : Late context w) (none : w.idle? pool.number = none)
    (limit rounds : Nat) :
    exists e w', pool.acquireBefore context limit rounds w = (.error e, w') ∧
      w'.server = w.server := by
  cases rounds with
  | zero => exact ⟨_, _, rfl, rfl⟩
  | succ rounds =>
      have requested : (pool.request w).now = w.now ∧ (pool.request w).server = w.server := by
        rw [request]
        split <;> exact ⟨rfl, rfl⟩
      have elapsed : (context.upTo limit).deadline.getD limit ≤ (pool.request w).now := by
        rcases late.upTo limit with ⟨deadline, given, passed, _⟩
        rw [given, requested.1]
        exact passed
      rw [acquireBefore]
      simp only [none, awaitIdle, if_pos elapsed]
      exact ⟨_, _, rfl, requested.2⟩

/-- After the deadline a pool lends no session, or the one that it keeps, put through all statements
of its scope. -/
theorem acquire_late (late : Late context w) (pool : Pool) :
    (exists e session sent w', pool.acquire context w = (.error e, w') ∧
      sent <+: pool.pinned ∧ w.server.rules.Instant sent ∧
      w'.server = w.server.afterAll session sent) ∨
    (exists session w',
      pool.acquire context w = (.ok (w.server.rules.replay session pool.pinned), w') ∧
        w.server.rules.Instant pool.pinned ∧ Late context w' ∧
        w'.server = w.server.afterAll session pool.pinned) := by
  rw [acquire, rounds]
  split
  · exact Or.inl ⟨_, Session.fresh 0, [], w, rfl, List.nil_prefix, .nil, rfl⟩
  · cases keeps : w.idle? pool.number with
    | none =>
        rcases acquireBefore_of_none late keeps (w.now + patience) 4 with ⟨e, w', failed, server⟩
        exact Or.inl ⟨e, Session.fresh 0, [], w', failed, List.nil_prefix, .nil, server⟩
    | some session =>
        have late' : Late context (w.takeIdle pool.number) := late.of_same rfl rfl
        rcases check_late (late'.upTo (w.now + patience)) pool session with ⟨sent, checks⟩
        rw [acquireBefore]
        simp only [keeps]
        generalize pool.check (context.upTo (w.now + patience)) session
          (w.takeIdle pool.number) = answer at checks ⊢
        rcases answer with ⟨checked, session', w'⟩
        rcases checks with ⟨part, instant, complete, rfl, rfl⟩
        cases checked with
        | passed =>
            cases complete rfl
            exact Or.inr ⟨session, _, rfl, instant, late.of_same rfl rfl, rfl⟩
        | failed =>
            have lateAfter : Late context { w.takeIdle pool.number with
                server := w.server.afterAll session sent } := late'.of_same rfl rfl
            have none : (w.takeIdle pool.number).idle? pool.number = none := by
              rw [World.idle?, World.takeIdle, List.lookup_eq_none_iff]
              intro kept member
              have other := of_decide_eq_true (List.mem_filter.mp member).2
              exact bne_iff_ne.mpr (Ne.symm other)
            rcases acquireBefore_of_none lateAfter none (w.now + patience) 3
              with ⟨e, w', failed, server⟩
            exact Or.inl ⟨e, session, sent, w', failed, part, instant, server⟩
        | cutOff e =>
            exact Or.inl ⟨_, session, sent, _, rfl, part, instant, putBack_server _ _ _⟩

/-! ## Statements -/

/-- What was sent on the session of a pool is all that a belated call on the pool did. -/
theorem belated_of_sent {answer : Except Error α × World Server Session}
    (same : w.server.rules = rules) (within : pool.Within (rules.licence True))
    (part : sent <+: pool.pinned ++ [sql]) (instant : rules.Instant sent)
    (server : answer.2.server = w.server.afterAll session sent)
    (complete : answer.1.isOk = true -> sent = pool.pinned ++ [sql]) :
    Belated rules (pool.pinned ++ [sql]) w answer := by
  subst same
  refine ⟨⟨sent, [], session.number, part, instant, Or.inl rfl, ?_, ?_⟩, fun slow => ⟨?_, ?_⟩⟩
  · refine ⟨_, by rw [server, Server.afterAll_log], ?_⟩
    rw [Rules.transcript_sql, List.append_nil]
  · refine ⟨_, by rw [server, Server.afterAll_entries], fun entry member => Or.inl ?_⟩
    exact Rules.transcript_session _ _ _ entry member
  · apply Bool.eq_false_iff.mpr
    intro succeeded
    exact slow (complete succeeded ▸ instant)
  · rcases List.prefix_concat_iff.mp part with all | before
    · exact absurd (all ▸ instant) slow
    · rw [server]
      exact Server.afterAll_committed _ _ fun statement member =>
        within statement (before.subset member) True.intro

/-- A statement is tried on a session that a pool lent after the deadline. -/
theorem tried_belated {answer : Except Error α × Session × World Server Session}
    {w' : World Server Session} (same : w.server.rules = rules)
    (within : pool.Within (rules.licence True)) (instant : rules.Instant pool.pinned)
    (server : w'.server = w.server.afterAll session pool.pinned)
    (tried : Tried sql (rules.replay session pool.pinned) w' answer) :
    Belated rules (pool.pinned ++ [sql]) w
      (answer.1, answer.2.2.putBack pool.number answer.2.1) := by
  subst same
  cases tried with
  | cut =>
      exact belated_of_sent rfl within (List.prefix_append _ _) instant
        ((putBack_server _ _ _).trans server) (fun succeeded => absurd succeeded Bool.false_ne_true)
  | ran quick =>
      have rules : w'.server.rules = w.server.rules := by
        rw [server, Server.afterAll_rules]
      have said : (w'.say sql (w.server.rules.replay session pool.pinned)).server =
          w.server.afterAll session (pool.pinned ++ [sql]) := by
        rw [Server.afterAll_append, ← server]
        rfl
      rw [delay_eq rules] at quick
      exact belated_of_sent rfl within (List.prefix_refl _) (instant.append (.singleton quick))
        ((putBack_server _ _ _).trans said) fun _ => rfl

variable (late : Late context w) (same : w.server.rules = rules)
  (within : pool.Within (rules.licence True))
include late same within

theorem execute_belated (sql : String) :
    Belated rules (pool.pinned ++ [sql]) w (pool.execute context sql w) := by
  subst same
  rw [execute]
  rcases acquire_late late pool
    with ⟨e, session, sent, w', failed, part, instant, server⟩ |
      ⟨session, w', lent, instant, late', server⟩
  · rw [failed]
    exact belated_of_sent rfl within (part.trans (List.prefix_append _ _)) instant server
      (fun ok => absurd ok Bool.false_ne_true)
  · rw [lent]
    exact tried_belated rfl within instant server (late'.executeIn_tried "exec" sql _)

theorem query_belated (sql : String) :
    Belated rules (pool.pinned ++ [sql]) w (pool.query context sql w) := by
  subst same
  rw [query]
  rcases acquire_late late pool
    with ⟨e, session, sent, w', failed, part, instant, server⟩ |
      ⟨session, w', lent, instant, late', server⟩
  · rw [failed]
    exact belated_of_sent rfl within (part.trans (List.prefix_append _ _)) instant server
      (fun ok => absurd ok Bool.false_ne_true)
  · rw [lent]
    exact tried_belated rfl within instant server (late'.queryIn_tried "query" sql _)

theorem queryText_belated (sql : String) (format : Format) :
    Belated rules (pool.pinned ++ [sql]) w (pool.queryText context sql format w) :=
  (query_belated late same within sql).bind _

end Pool
end ScopedSql
