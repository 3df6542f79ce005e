import ScopedSql.Pool.Basic
import ScopedSql.Proofs.Scope
import ScopedSql.Proofs.World.Attempt

namespace ScopedSql
namespace Pool

open Scripted World

/-!
# What a pool does to a world

Whatever is asked of a pool, what it does is a passage: it uses sessions of its
own, which come from the background or are opened for the moment, and gives them
back, closes them or loses them.  It runs on them what its callers bring and the
statements of the scope to which it is pinned.
-/

variable {w w' : World Server Session} {session : Session} {licence : Licence}

/-- The statements that put the sessions of a pool on its scope are within a licence. -/
def Within (licence : Licence) (pool : Pool) : Prop :=
  forall sql, sql ∈ pool.pinned -> licence.speaks sql

/-- To see whether a session still answers changes nothing. -/
theorem ping_keeps (w : World Server Session) (session : Session) :
    exists result, w.ping session = (result, session, w) := by
  cases failure : w.server.rules.pingFailure with
  | some text =>
      exact ⟨.error (.connection (.refused text)), by
        simp only [ping, Backend.ping, Server.ping, failure]⟩
  | none => exact ⟨.ok (), by simp only [ping, Backend.ping, Server.ping, failure]⟩

theorem pingIn_keeps (w : World Server Session) (context : Context) (session : Session) :
    exists result, w.pingIn context session = (result, session, w) := by
  rw [pingIn, await_zero]
  cases w.isCancelled context with
  | true => exact ⟨_, rfl⟩
  | false => exact ping_keeps w session

/-- What somebody has in hand who asked for a session. -/
def handed (result : Except Error Session) : List Session :=
  result.toOption.toList

/-! ## Sessions that are lent -/

theorem reposition_passage (context : Context) {sqls : List String}
    (spoken : forall sql, sql ∈ sqls -> licence.speaks sql) :
    Passage licence [session] w [(reposition context sqls session w).2.1]
      (reposition context sqls session w).2.2 := by
  induction sqls generalizing session w with
  | nil => exact .refl
  | cons sql rest inductionHypothesis =>
      rcases await_cases licence w context "acquire" (w.delay sql)
        with ⟨w', passed, waited | ⟨e, cause, waited⟩⟩
      · rcases execute_moves w' sql session with ⟨result, ran⟩
        have said : Passage licence [session] w [w'.server.rules.move session sql]
            (w'.say sql session) :=
          (passed.lift [session]).trans (.say (spoken sql List.mem_cons_self))
        rw [reposition, waited]
        simp only [ran]
        cases result with
        | error e => exact said
        | ok count =>
            apply said.trans
            apply inductionHypothesis
            intro statement member
            exact spoken statement (List.mem_cons_of_mem _ member)
      · rw [reposition, waited]
        exact passed.lift [session]

theorem check_passage {pool : Pool} (within : pool.Within licence) (context : Context) :
    Passage licence [session] w [(pool.check context session w).2.1]
      (pool.check context session w).2.2 := by
  rw [check]
  split
  · rcases ping_keeps w session with ⟨result, answered⟩
    rw [answered]
    cases result <;> exact .refl
  · exact reposition_passage context within

theorem request_passage {pool : Pool} (within : pool.Within licence) (enters : licence.enters) :
    Passage licence [] w [] (pool.request w) := by
  rw [request]
  split
  · exact .refl
  · exact .spawn rfl rfl within fun _ => ⟨enters, rfl⟩

theorem awaitIdle_passage (pool : Pool) (context : Context) (limit : Nat) :
    Passage licence [] w [] (pool.awaitIdle context limit w).2 := by
  rw [awaitIdle]
  split
  · exact .refl
  · simp only
    split
    · exact elapse_passage _ _
    · split
      · exact elapse_passage _ _
      · exact (elapse_passage _ _).trans (moveTo_passage _)

theorem acquireBefore_passage {pool : Pool} (within : pool.Within licence)
    (enters : licence.enters) (context : Context) (limit rounds : Nat) :
    Passage licence [] w (handed (pool.acquireBefore context limit rounds w).1)
      (pool.acquireBefore context limit rounds w).2 := by
  induction rounds generalizing w with
  | zero => exact .refl
  | succ rounds inductionHypothesis =>
      rw [acquireBefore]
      split
      · rename_i session keeps
        have taken : Passage licence [] w [session] (w.takeIdle pool.number) := .takeIdle keeps
        have checked := taken.trans (check_passage within (context.upTo limit))
        split
        · rename_i lent after outcome
          rw [outcome] at checked
          exact checked
        · rename_i lost after outcome
          rw [outcome] at checked
          exact (checked.trans .forget).trans inductionHypothesis
        · rename_i e back after outcome
          rw [outcome] at checked
          exact checked.trans (.putBack pool.number)
      · have waited := (request_passage (w := w) within enters).trans
          (awaitIdle_passage pool context ((context.upTo limit).deadline.getD limit))
        split
        · rename_i after outcome
          rw [outcome] at waited
          exact waited.trans inductionHypothesis
        · rename_i e after outcome
          rw [outcome] at waited
          exact waited

theorem acquire_passage {pool : Pool} (within : pool.Within licence) (enters : licence.enters)
    (context : Context) :
    Passage licence [] w (handed (pool.acquire context w).1) (pool.acquire context w).2 := by
  rw [acquire]
  split
  · exact .refl
  · exact acquireBefore_passage within enters context _ _

/-! ## Statements -/

theorem execute_passage {pool : Pool} (within : pool.Within licence) (enters : licence.enters)
    (context : Context) {sql : String} (speaks : licence.speaks sql) :
    Passage licence [] w [] (pool.execute context sql w).2 := by
  apply Passage.ofTame
  intro tame
  have acquired := acquire_passage (w := w) within enters context
  rw [execute]
  split
  · rename_i e after outcome
    rw [outcome] at acquired
    exact acquired
  · rename_i session after outcome
    rw [outcome] at acquired
    have attempt := executeIn_attempt (acquired.tame tame) context "exec" sql session
    exact (acquired.trans (attempt.passage speaks)).trans (.putBack pool.number)

theorem query_passage {pool : Pool} (within : pool.Within licence) (enters : licence.enters)
    (context : Context) {sql : String} (speaks : licence.speaks sql) :
    Passage licence [] w [] (pool.query context sql w).2 := by
  apply Passage.ofTame
  intro tame
  have acquired := acquire_passage (w := w) within enters context
  rw [query]
  split
  · rename_i e after outcome
    rw [outcome] at acquired
    exact acquired
  · rename_i session after outcome
    rw [outcome] at acquired
    have attempt := queryIn_attempt (acquired.tame tame) context "query" sql session
    exact (acquired.trans (attempt.passage speaks)).trans (.putBack pool.number)

/-! ## Opening a pool -/

/-- Opening a pool uses one session for a moment.  A pool that is opened is pinned to what its
scope becomes. -/
theorem start_passage (enters : licence.enters) (context : Context) (connector : Connector)
    (scope : Scope) :
    Passage licence [] w [] (start context connector scope w).2 ∧
      forall pool, (start context connector scope w).1 = .ok pool ->
        scope.fault? = none ∧ pool.pinned = scope.positions := by
  rw [start, scope.statements_eq]
  cases fault : scope.fault? with
  | some e => exact ⟨.refl, fun pool opened => nomatch opened⟩
  | none =>
      rcases connectIn_cases w context connector.target with ⟨e, failed⟩ | opened
      · simp only [failed]
        exact ⟨.refl, fun pool opened => nomatch opened⟩
      · rcases pingIn_keeps w.entered context
          (Session.fresh (w.server.ledger.opened + 1))
          with ⟨result, pinged⟩
        have closed : Passage licence [] w []
            (w.entered.close (Session.fresh (w.server.ledger.opened + 1))) :=
          (Passage.enter enters).trans .close
        simp only [opened, pinged]
        cases result with
        | error e => exact ⟨closed, fun pool opened => nomatch opened⟩
        | ok _ =>
            refine ⟨closed.trans (.calm rfl rfl (List.Perm.refl _).subperm (Nat.le_refl _)), ?_⟩
            rintro pool ⟨⟩
            exact ⟨True.intro, rfl⟩

end Pool
end ScopedSql
