import ScopedSql.Proofs.Transaction.Interruption
import ScopedSql.Proofs.Transaction.Phase

namespace ScopedSql

open Scripted World

/-!
# Calls on a live transaction

A commit that was cut off or refused is followed by a rollback, and a rollback
ends its transaction and closes its session however long it takes.  A statement
that was cut off leaves the transaction as it was, so that it can be used within
another context.
-/

variable {rules : Rules} {context : Context} {session : Session} {tx : Transaction Session}
  {w : World Server Session}

/-! ## Ending -/

/-- A rollback ends a live transaction and closes its session, whatever comes of it.  It is cut
off only if it takes too long. -/
structure Released (rules : Rules) (tx : Transaction Session) (session : Session)
    (w : World Server Session)
    (answer : Except Error Unit × Transaction Session × World Server Session) : Prop where
  outcome : answer.1 =
    if w.delay "ROLLBACK" ≤ cleanupTime then (w.execute "ROLLBACK" session).1.map (fun _ => ())
    else .error (.timedOut "rollback")
  ended : answer.2.1 = tx.ending .rolledBack
  closed : answer.2.2.server.closings session.number = 1
  log : answer.2.2.server.log session.number =
    w.server.log session.number ++ rules.transcript session (Transaction.farewell w)
  committed : answer.2.2.server.ledger.committed = w.server.ledger.committed

/-- The answer to a commit of a live transaction is honest.  The commit was cut off, it was refused,
or the transaction is committed; in the first two cases it was rolled back.  The session is closed
in any case. -/
structure Resolved (rules : Rules) (context : Context) (tx : Transaction Session)
    (session : Session) (w : World Server Session)
    (answer : Except Error Unit × Transaction Session × World Server Session) : Prop where
  sent : exists sent : List String,
    answer.2.2.server.log session.number =
        w.server.log session.number ++ rules.transcript session sent ∧
      sent.count "COMMIT" ≤ 1 ∧ (Interrupted answer.1 ↔ "COMMIT" ∉ sent)
  reported : ¬ Interrupted answer.1 ->
    answer.1 = (w.execute "COMMIT" session).1.map (fun _ => ())
  kept : answer.1 = .ok () -> answer.2.1 = tx.ending .committed ∧
    answer.2.2.server.ledger.committed = w.server.ledger.committed ++ session.pending
  unkept : answer.1 ≠ .ok () -> answer.2.1 = tx.ending .rolledBack ∧
    answer.2.2.server.ledger.committed = w.server.ledger.committed
  closed : answer.2.2.server.closings session.number = 1
  blames : Blames context "commit" (w.delay "COMMIT") w
    (w.executeIn context "commit" "COMMIT" session).2.2 answer.1

/-- A commit that failed was followed by a rollback. -/
theorem Resolved.ofReleased (said : List String) {e : Error} {w1 w2 : World Server Session}
    {result : Except Error Unit} {tx' : Transaction Session}
    (released : Released rules (tx.withSession session) session w1 (result, tx', w2))
    (log : w1.server.log session.number =
      w.server.log session.number ++ rules.transcript session said)
    (still : rules.replay session said = session)
    (committed : w1.server.ledger.committed = w.server.ledger.committed)
    (once : (said ++ Transaction.farewell w1).count "COMMIT" ≤ 1)
    (unsaid : Interrupted (.error e : Except Error Unit) ↔
      "COMMIT" ∉ said ++ Transaction.farewell w1)
    (reported : ¬ Interrupted (.error e : Except Error Unit) ->
      .error e = (w.execute "COMMIT" session).1.map (fun _ => ()))
    (blames : Blames context "commit" (w.delay "COMMIT") w
      (w.executeIn context "commit" "COMMIT" session).2.2 (.error e : Except Error Unit)) :
    Resolved rules context tx session w (.error e, tx', w2) where
  sent := by
    refine ⟨said ++ Transaction.farewell w1, ?_, once, unsaid⟩
    rw [Rules.transcript_append, still, ← List.append_assoc, ← log]
    exact released.log
  reported := reported
  kept := fun impossible => nomatch impossible
  unkept := fun _ => ⟨released.ended, released.committed.trans committed⟩
  closed := released.closed
  blames := blames

/-- What comes of committing a live transaction: its commit succeeds, or a rollback follows on a
commit that was refused or cut off. -/
inductive Committal (rules : Rules) (context : Context) (tx : Transaction Session)
    (session : Session) (w : World Server Session) :
    Except Error Unit × Transaction Session × World Server Session -> Prop
  | committed {w1 : World Server Session} (meanwhile : Meanwhile session.number w w1)
      (inTime : w.delay "COMMIT" = 0 ∨
        forall deadline, context.deadline = some deadline -> w.now + w.delay "COMMIT" ≤ deadline)
      (accepted : rules.refusal? "COMMIT" = none) :
      Committal rules context tx session w
        (.ok (), tx.ending .committed, (w1.say "COMMIT" session).close session)
  | refused {e : Error} {result : Except Error Unit} {tx' : Transaction Session}
      {w1 w2 : World Server Session} (meanwhile : Meanwhile session.number w w1)
      (inTime : w.delay "COMMIT" = 0 ∨
        forall deadline, context.deadline = some deadline -> w.now + w.delay "COMMIT" ≤ deadline)
      (refused : rules.refusal? "COMMIT" = some e)
      (released : Released rules (tx.withSession session) session (w1.say "COMMIT" session)
        (result, tx', w2)) : Committal rules context tx session w (.error e, tx', w2)
  | cut {e : Error} {result : Except Error Unit} {tx' : Transaction Session}
      {w1 w2 : World Server Session} (meanwhile : Meanwhile session.number w w1)
      (cause : Cause context "commit" (w.delay "COMMIT") w w1 e)
      (waited : (w.executeIn context "commit" "COMMIT" session).2.2 = w1)
      (released : Released rules (tx.withSession session) session w1 (result, tx', w2)) :
      Committal rules context tx session w (.error e, tx', w2)

namespace Transaction

/-- A rollback is no commit. -/
theorem commit_not_mem_farewell (w : World Server Session) : "COMMIT" ∉ farewell w := by
  rcases farewell_cases w with sent | sent <;> simp [sent]

theorem rollback_released (exclusive : Exclusive rules session w)
    (live : tx.phase = .live session) : Released rules tx session w (tx.rollback w) := by
  have trial := executeIn_trial exclusive.tame exclusive.sameRules exclusive.absent w.cleanup
    "rollback" "ROLLBACK"
  rw [rollback, live]
  simp only
  generalize w.executeIn w.cleanup "rollback" "ROLLBACK" session = answer at trial ⊢
  cases trial with
  | @cut w1 e meanwhile passed cause =>
      -- Nobody can cancel a cleanup, so that only its time can have been too short.
      have late : e = .timedOut "rollback" ∧ ¬ w.delay "ROLLBACK" ≤ cleanupTime := by
        cases cause with
        | cancelled cancelled early => cases cancelled
        | timedOut given short reached =>
            cases given
            exact ⟨rfl, by omega⟩
      refine ⟨?_, rfl, meanwhile.close exclusive.unclosed, ?_, meanwhile.committed⟩
      · rw [if_neg late.2, late.1]
      · rw [farewell, if_neg late.2]
        exact meanwhile.log.trans (List.append_nil _).symm
  | @ran w1 meanwhile passed free inTime now =>
      have soon : w.delay "ROLLBACK" ≤ cleanupTime := by
        rcases inTime with zero | inTime
        · omega
        · have bound := inTime _ rfl
          omega
      have quiet := Rules.delivery_of_quiet
        (Rules.quiet_of_read Control.read_rollback (by decide) rules) session
      rcases meanwhile.say exclusive.sameRules "ROLLBACK" with ⟨once, committed⟩
      rw [quiet, List.append_nil] at committed
      have whole : Released rules tx session w
          ((w.execute "ROLLBACK" session).1.map (fun _ => ()), tx.ending .rolledBack,
            (w1.say "ROLLBACK" session).close (rules.move session "ROLLBACK")) := by
        rw [close_move]
        refine ⟨(if_pos soon).symm, rfl, meanwhile.close exclusive.unclosed, ?_, committed⟩
        rw [farewell, if_pos soon]
        exact once
      cases own : (w.execute "ROLLBACK" session).1 with
      | error e =>
          rw [own] at whole
          exact whole
      | ok count =>
          rw [own] at whole
          exact whole

theorem commit_committal (exclusive : Exclusive rules session w)
    (live : tx.phase = .live session) (context : Context) :
    Committal rules context tx session w (tx.commit context w) := by
  have trial := executeIn_trial exclusive.tame exclusive.sameRules exclusive.absent context
    "commit" "COMMIT"
  rw [commit, live]
  simp only
  rcases attempted : w.executeIn context "commit" "COMMIT" session with ⟨result, session', w'⟩
  have after := exclusive.trial trial
  rw [attempted] at trial after
  cases trial with
  | @cut _ e meanwhile passed cause =>
      have released := rollback_released after (rfl : (tx.withSession session).phase = _)
      simp only
      generalize (tx.withSession session).rollback w' = ended at released ⊢
      rcases ended with ⟨result, tx', w2⟩
      exact .cut meanwhile cause (by rw [attempted]) released
  | @ran w1 meanwhile passed free inTime now =>
      cases refused : rules.refusal? "COMMIT" with
      | some e =>
          have refusing : w.server.rules.refusal? "COMMIT" = some e :=
            exclusive.sameRules ▸ refused
          rw [Rules.move_of_refused refused] at after ⊢
          rw [execute_of_refused refusing]
          have released := rollback_released after (rfl : (tx.withSession session).phase = _)
          simp only
          generalize (tx.withSession session).rollback (w1.say "COMMIT" session) = ended
            at released ⊢
          rcases ended with ⟨result, tx', w2⟩
          exact .refused meanwhile inTime refused released
      | none =>
          have accepting : w.server.rules.refusal? "COMMIT" = none :=
            exclusive.sameRules ▸ refused
          rcases execute_of_accepted accepting session with ⟨count, ran⟩
          rw [ran]
          simp only
          rw [close_move]
          exact .committed meanwhile inTime refused

theorem commit_resolved (exclusive : Exclusive rules session w) (live : tx.phase = .live session)
    (context : Context) : Resolved rules context tx session w (tx.commit context w) := by
  have committal := commit_committal exclusive live context
  generalize tx.commit context w = answer at committal ⊢
  cases committal with
  | @cut e result tx' w1 w2 meanwhile cause waited released =>
      have unsaid := commit_not_mem_farewell w1
      refine .ofReleased [] released ?_ rfl meanwhile.committed ?_ ?_ ?_ ?_
      · exact meanwhile.log.trans (List.append_nil _).symm
      · exact Nat.le_succ_of_le (Nat.le_of_eq (List.count_eq_zero.mpr unsaid))
      · exact iff_of_true cause.interrupted unsaid
      · exact fun other => absurd cause.interrupted other
      · rw [waited]
        exact cause.blames
  | @refused e result tx' w1 w2 meanwhile inTime refused released =>
      rcases meanwhile.say exclusive.sameRules "COMMIT" with ⟨once, committed⟩
      have quiet := Rules.delivery_of_quiet (Rules.quiet_of_refused refused) session
      rw [quiet, List.append_nil] at committed
      have own : (w.execute "COMMIT" session).1 = .error e := by
        rw [execute_of_refused (exclusive.sameRules ▸ refused)]
      have sober : FailsBy (fun e => e.isInterruption = false) (.error e : Except Error Unit) :=
        .error (Error.isInterruption_of_reported (Rules.refusal?_eq_some refused))
      refine .ofReleased ["COMMIT"] released once ?_ committed ?_ ?_ ?_ ?_
      · exact Rules.move_of_refused refused session
      · apply Nat.le_of_eq
        rw [List.singleton_append, List.count_cons_self,
          List.count_eq_zero.mpr (commit_not_mem_farewell _)]
      · exact iff_of_false (not_interrupted sober) fun unsaid => unsaid List.mem_cons_self
      · intro _
        rw [own]
        rfl
      · exact .ofSober sober
  | @committed w1 meanwhile inTime accepted =>
      rcases meanwhile.say exclusive.sameRules "COMMIT" with ⟨once, committed⟩
      rcases execute_of_accepted (exclusive.sameRules ▸ accepted) session with ⟨count, ran⟩
      have delivered : rules.delivery session "COMMIT" = session.pending := by
        rw [Rules.delivery, accepted, if_pos ⟨rfl, Control.read_commit⟩]
      rw [delivered] at committed
      exact
        { sent := ⟨["COMMIT"], once, Nat.le_refl _,
            iff_of_false (not_interrupted (.ok ())) fun unsaid => unsaid List.mem_cons_self⟩
          reported := fun _ => by rw [ran]; rfl
          kept := fun _ => ⟨rfl, committed⟩
          unkept := fun failed => absurd rfl failed
          closed := meanwhile.close exclusive.unclosed
          blames := .ofSober (.ok ()) }

/-- Good work ends as its commit does. -/
theorem finish_of_ok (tx : Transaction Session) (context : Context) {α : Type}
    (value : α) (w : World Server Session) :
    tx.finish context (.ok value) w = ((tx.commit context w).1.map (fun _ => value),
      (tx.commit context w).2.1, (tx.commit context w).2.2) := by
  rw [finish]
  rcases tx.commit context w with ⟨e | _, tx', w'⟩ <;> rfl

end Transaction

/-! ## Going on -/

/-- Statements can be run in the transaction: within any context that lasts a statement is run
once. -/
def Transaction.Usable (rules : Rules) (tx : Transaction Session) (session : Session)
    (w : World Server Session) : Prop :=
  forall (other : Context) (sql : String),
    let answer := tx.execute other sql w
    answer.2.2.isCancelled other = false ->
      (forall deadline, other.deadline = some deadline -> answer.2.2.now < deadline) ->
        Carried rules other sql tx answer.2.1 session w answer.2.2 (w.execute sql session).1
          answer.1

theorem Exclusive.usable (exclusive : Exclusive rules session w)
    (live : tx.phase = .live session) : tx.Usable rules session w := by
  intro other sql answer free lasting
  have candid := Transaction.execute_candid exclusive live other sql
  apply candid.carried
  rintro ⟨e, failed, cut⟩
  cases e with
  | cancelled name =>
      rw [(candid.blames.cancelled name failed).2.1] at free
      cases free
  | timedOut name =>
      rcases (candid.blames.timedOut name failed).2 with ⟨deadline, given, _, reached⟩
      exact absurd (lasting deadline given) (Nat.not_lt.mpr reached)
  | _ => cases cut

/-- A transaction that is still live after a command still has its session for itself. -/
theorem Exclusive.command {session' : Session} (exclusive : Exclusive rules session w)
    (live : tx.phase = .live session) (context : Context) (command : Command)
    (live' : (command.run context tx w).2.1.phase = .live session') :
    Exclusive rules session' (command.run context tx w).2.2 := by
  have ran : forall sql, Exclusive rules (w.executeIn context "exec" sql session).2.1
      (w.executeIn context "exec" sql session).2.2 := fun sql =>
    exclusive.trial
      (executeIn_trial exclusive.tame exclusive.sameRules exclusive.absent context "exec" sql)
  have asked : forall sql, Exclusive rules (w.queryIn context "query" sql session).2.1
      (w.queryIn context "query" sql session).2.2 := fun sql =>
    exclusive.trial
      (queryIn_trial exclusive.tame exclusive.sameRules exclusive.absent context "query" sql)
  cases command with
  | execute sql =>
      simp only [Command.run, Transaction.execute_of_live live] at live' ⊢
      cases live'
      exact ran sql
  | query sql format =>
      simp only [Command.run, Transaction.queryText, Transaction.query_of_live live] at live' ⊢
      cases live'
      exact asked sql
  | rows sql =>
      simp only [Command.run, Transaction.query_of_live live] at live' ⊢
      cases live'
      exact asked sql
  | commit =>
      rcases Transaction.commit_phase live context w with ⟨ending, ended, _⟩
      simp only [Command.run, ended] at live'
      cases live'
  | rollback =>
      simp only [Command.run, Transaction.rollback_phase live w] at live'
      cases live'
  | cancel =>
      cases live.symm.trans live'
      rw [Command.run]
      cases context.token with
      | none => exact exclusive
      | some token =>
          exact ⟨⟨exclusive.tame.ordered, exclusive.tame.spoken, exclusive.tame.prompt⟩,
            exclusive.sameRules, exclusive.absent, exclusive.unclosed⟩
  | fail text =>
      cases live.symm.trans live'
      exact exclusive

/-- All calls on a live transaction within a context are honest. -/
structure Dependable (rules : Rules) (context : Context) (tx : Transaction Session)
    (session : Session) (w : World Server Session) : Prop where
  execute : forall sql, Candid rules context "exec" sql tx session w (w.execute sql session).1
    (tx.execute context sql w)
  query : forall sql, Candid rules context "query" sql tx session w (w.query sql session).1
    (tx.query context sql w)
  queryText : forall sql format, Candid rules context "query" sql tx session w
    ((w.query sql session).1.bind (fun set => set.render format))
    (tx.queryText context sql format w)
  /-- After a statement that was cut off the transaction can be used within other contexts. -/
  usable : forall (command : Command) (sql : String), command.statement? = some sql ->
    Interrupted (command.run context tx w).1 ->
      (command.run context tx w).2.1 = tx ∧
        tx.Usable rules session (command.run context tx w).2.2
  commit : Resolved rules context tx session w (tx.commit context w)
  rollback : Released rules tx session w (tx.rollback w)
  /-- Nothing but a rollback is run within a context that is cancelled already. -/
  early : w.isCancelled context = true ->
    (forall sql, tx.execute context sql w = (.error (.cancelled "exec"), tx, w)) ∧
    (forall sql, tx.query context sql w = (.error (.cancelled "query"), tx, w)) ∧
    (forall sql format,
      tx.queryText context sql format w = (.error (.cancelled "query"), tx, w)) ∧
    (tx.commit context w).1 = .error (.cancelled "commit")

theorem Exclusive.dependable (exclusive : Exclusive rules session w)
    (live : tx.phase = .live session) (context : Context) :
    Dependable rules context tx session w where
  execute := Transaction.execute_candid exclusive live context
  query := Transaction.query_candid exclusive live context
  queryText := Transaction.queryText_candid exclusive live context
  usable := by
    intro command sql brings cut
    have same : (command.run context tx w).2.1 = tx := by
      cases command with
      | execute text =>
          exact ((Transaction.execute_candid exclusive live context text).undone cut.of_map).same
      | query text format =>
          exact ((Transaction.queryText_candid exclusive live context text format).undone
            cut.of_map).same
      | rows text =>
          exact ((Transaction.query_candid exclusive live context text).undone cut.of_map).same
      | _ => cases brings
    have still : (command.run context tx w).2.1.phase = .live session := by rw [same, live]
    exact ⟨same, (exclusive.command live context command still).usable live⟩
  commit := Transaction.commit_resolved exclusive live context
  rollback := Transaction.rollback_released exclusive live
  early := by
    intro cancelled
    refine ⟨Transaction.execute_of_cancelled live cancelled,
      Transaction.query_of_cancelled live cancelled, ?_,
      Transaction.commit_of_cancelled live cancelled⟩
    intro sql format
    rw [Transaction.queryText, Transaction.query_of_cancelled live cancelled]
    rfl

end ScopedSql
