import ScopedSql.Proofs.Scope
import ScopedSql.Proofs.World.Attempt
import ScopedSql.Transaction.Finish

namespace ScopedSql

open Scripted World

/-!
# A session of one's own

A session that is not in circulation belongs to whoever has its state.  Its state
and what the ledger says of it are then the replay and the transcript of the
statements that the owner ran on it, whatever the others do in the meantime.  A
live transaction owns its session in this sense, and when it ends the session is
closed and nothing happens to it ever again.
-/

/-- The session of a number belongs to whoever has its state, and these statements were run
on it. -/
structure Owned (number : Nat) (sqls : List String) (session : Session)
    (w : World Server Session) : Prop where
  absent : (w.circulation []).Absent number
  state : session = w.server.rules.replay (Session.fresh number) sqls
  log : w.server.log number = w.server.rules.transcript (Session.fresh number) sqls
  unclosed : w.server.closings number = 0

/-- The session of a number is closed for good, and these statements were run on it. -/
structure Spent (number : Nat) (sqls : List String) (w : World Server Session) : Prop where
  absent : (w.circulation []).Absent number
  log : w.server.log number = w.server.rules.transcript (Session.fresh number) sqls
  closed : w.server.closings number = 1

/-- The session of a number was let go and is open for good: nobody has it any more, and these
statements were run on it. -/
structure Lost (number : Nat) (sqls : List String) (w : World Server Session) : Prop where
  absent : (w.circulation []).Absent number
  log : w.server.log number = w.server.rules.transcript (Session.fresh number) sqls
  unclosed : w.server.closings number = 0

variable {w w' : World Server Session} {number : Nat} {sqls : List String}
  {session : Session} {licence : Licence}

/-! ## The others -/

namespace World

theorem Passage.rules {before after : List Session} (passage : Passage licence before w after w')
    (tame : Tame licence w) : w'.server.rules = w.server.rules :=
  (passage.conduct tame).rules

end World

theorem Owned.number_eq (owned : Owned number sqls session w) : session.number = number := by
  rw [owned.state, Rules.replay_number]
  rfl

/-- What the others do leaves the session alone. -/
theorem Owned.passage (owned : Owned number sqls session w) (tame : Tame licence w)
    (passage : Passage licence [] w [] w') : Owned number sqls session w' := by
  rcases (passage.conduct tame).bystander owned.absent with ⟨absent, log, closings⟩
  have rules := passage.rules tame
  exact ⟨absent, rules ▸ owned.state, rules ▸ log.trans owned.log, closings.trans owned.unclosed⟩

theorem Spent.passage (spent : Spent number sqls w) (tame : Tame licence w)
    (passage : Passage licence [] w [] w') : Spent number sqls w' := by
  rcases (passage.conduct tame).bystander spent.absent with ⟨absent, log, closings⟩
  have rules := passage.rules tame
  exact ⟨absent, rules ▸ log.trans spent.log, closings.trans spent.closed⟩

/-! ## The owner -/

/-- Who opens a session owns it. -/
theorem Owned.opened (numbered : (w.circulation []).Numbered) :
    Owned (w.server.ledger.opened + 1) [] (Session.fresh (w.server.ledger.opened + 1))
      w.entered := by
  rcases numbered.silent _ (Nat.lt_succ_self _) with ⟨log, closings⟩
  exact ⟨⟨Nat.le_refl _, numbered.next_absent⟩, rfl, log, closings⟩

theorem Owned.say (owned : Owned number sqls session w) (sql : String) :
    Owned number (sqls ++ [sql]) (w.server.rules.move session sql) (w.say sql session) := by
  have rules : (w.say sql session).server.rules = w.server.rules := rfl
  refine ⟨⟨owned.absent.opened, owned.absent.absent⟩, ?_, ?_, owned.unclosed⟩
  · rw [rules, Rules.replay_append, ← owned.state]
    rfl
  · have itself := Server.afterRun_log_self w.server session sql
    rw [owned.number_eq] at itself
    rw [rules, Rules.transcript_append, ← owned.state, ← owned.log]
    exact itself

theorem Owned.close (owned : Owned number sqls session w) :
    Spent number sqls (w.close session) := by
  refine ⟨⟨owned.absent.opened, owned.absent.absent⟩, owned.log, ?_⟩
  have itself := Server.close_closings_self w.server session
  rw [owned.number_eq, owned.unclosed] at itself
  exact itself

/-- An owner may forget about the session. -/
theorem Owned.forget (owned : Owned number sqls session w) : Lost number sqls w :=
  ⟨owned.absent, owned.log, owned.unclosed⟩

/-- What comes of a statement that the owner attempts: it is cut off and was not run, or it was run
and is refused or succeeds. -/
inductive Owning (licence : Licence) (operation sql : String) (number : Nat) (sqls : List String)
    (session : Session) (w : World Server Session) {α : Type} :
    Except Error α × Session × World Server Session -> Prop
  | cut {e : Error} {w' : World Server Session} (cause : e.Interrupts operation)
      (passed : Passage licence [session] w [session] w') (owned : Owned number sqls session w') :
      Owning licence operation sql number sqls session w (.error e, session, w')
  | refused {e : Error} {w' : World Server Session}
      (refused : w.server.rules.refusal? sql = some e)
      (passed : Passage licence [session] w [session] w')
      (owned : Owned number (sqls ++ [sql]) session w') :
      Owning licence operation sql number sqls session w (.error e, session, w')
  | done {value : α} {session' : Session} {w' : World Server Session}
      (accepted : w.server.rules.refusal? sql = none)
      (passed : Passage licence [session] w [session'] w')
      (owned : Owned number (sqls ++ [sql]) session' w') :
      Owning licence operation sql number sqls session w (.ok value, session', w')

theorem World.Attempt.owning {α : Type} {operation sql : String}
    {answer : Except Error α × Session × World Server Session}
    (attempt : Attempt licence operation sql session w answer) (tame : Tame licence w)
    (speaks : licence.speaks sql) (owned : Owned number sqls session w) :
    Owning licence operation sql number sqls session w answer := by
  have passage := attempt.passage speaks
  cases attempt with
  | cut passed cause => exact .cut cause passage (owned.passage tame passed)
  | @refused w' e passed refused =>
      have said := (owned.passage tame passed).say sql
      rw [Rules.move_of_refused (passed.rules tame ▸ refused)] at said
      exact .refused refused passage said
  | @done w' value passed accepted =>
      have said := (owned.passage tame passed).say sql
      rw [Rules.move_of_accepted (passed.rules tame ▸ accepted)] at said
      exact .done accepted passage said

/-! ## Licences under which transactions are possible -/

/-- A licence for what transactions do by themselves: to begin, to take their place, to roll back,
and to try what is refused. -/
structure Scripted.Licence.Fits (licence : Licence) (rules : Rules) : Prop where
  begin : licence.speaks "START TRANSACTION"
  rollback : licence.speaks "ROLLBACK"
  positions : forall scope : Scope, scope.fault? = none ->
    forall sql, sql ∈ scope.positions -> licence.speaks sql
  refused : forall sql e, rules.refusal? sql = some e -> licence.speaks sql

namespace Transaction

variable {tx : Transaction Session}

/-- What is run on a session that is given up. -/
def farewell (w : World Server Session) : List String :=
  if w.delay "ROLLBACK" ≤ cleanupTime then ["ROLLBACK"] else []

theorem farewell_cases (w : World Server Session) :
    farewell w = [] ∨ farewell w = ["ROLLBACK"] := by
  rw [farewell]
  split
  · exact Or.inr rfl
  · exact Or.inl rfl

theorem farewell_of_rules (same : w'.server.rules = w.server.rules) :
    farewell w' = farewell w := by
  rw [farewell, farewell, World.delay_eq same, World.delay_eq rfl]

/-! ## Ending -/

/-- A rollback ends a live transaction whatever comes of it: its session is rolled back, unless
that takes too long, and closed. -/
theorem rollback_of_live (tx : Transaction Session) (tame : Tame licence w)
    (fits : licence.Fits w.server.rules)
    (owned : Owned number sqls session w) (live : tx.phase = .live session) :
    exists result w', tx.rollback w = (result, tx.ending .rolledBack, w') ∧
      Passage licence [session] w [] w' ∧ Spent number (sqls ++ farewell w) w' := by
  rcases executeIn_cleanup licence w "rollback" session with ⟨w1, passed, ran⟩
  have still := owned.passage tame passed
  have rules := passed.rules tame
  have ended : exists result, tx.rollback w =
      (result, tx.ending .rolledBack,
        (w.executeIn w.cleanup "rollback" "ROLLBACK" session).2.2.close
          (w.executeIn w.cleanup "rollback" "ROLLBACK" session).2.1) := by
    rw [rollback, live]
    simp only
    generalize w.executeIn w.cleanup "rollback" "ROLLBACK" session = answer
    rcases answer with ⟨e | count, session', w'⟩
    · exact ⟨_, rfl⟩
    · exact ⟨_, rfl⟩
  -- The session is closed after the attempt, so only what the attempt ran is left to tell.
  rcases ended with ⟨result, ended⟩
  refine ⟨result, _, ended, ?_⟩
  rw [ran, farewell]
  split
  · exact ⟨((passed.lift [session]).trans (.say fits.rollback)).trans .close,
      (still.say "ROLLBACK").close⟩
  · rw [List.append_nil]
    exact ⟨(passed.lift [session]).trans .close, still.close⟩

/-- A rollback that comes after what the owner did before. -/
theorem rollback_after (tx : Transaction Session) (tame : Tame licence w)
    (fits : licence.Fits w.server.rules) (passed : Passage licence [session] w [session] w')
    (owned : Owned number sqls session w') (live : tx.phase = .live session) :
    exists result w'', tx.rollback w' = (result, tx.ending .rolledBack, w'') ∧
      Passage licence [session] w [] w'' ∧ Spent number (sqls ++ farewell w) w'' := by
  have rules := passed.rules tame
  rcases rollback_of_live tx (passed.tame tame) (rules ▸ fits) owned live
    with ⟨result, w'', rolled, last, spent⟩
  rw [farewell_of_rules rules] at spent
  exact ⟨result, w'', rolled, passed.trans last, spent⟩

/-- What comes of committing a live transaction: its commit succeeds, or it is rolled back after
its commit was refused or cut off. -/
inductive Committing (licence : Licence) (number : Nat) (sqls : List String) (session : Session)
    (tx : Transaction Session) (w : World Server Session) :
    Except Error Unit × Transaction Session × World Server Session -> Prop
  | committed {w' : World Server Session} (passed : Passage licence [] w [] w')
      (accepted : w.server.rules.refusal? "COMMIT" = none)
      (owned : Owned number sqls session w') :
      Committing licence number sqls session tx w
        (.ok (), tx.ending .committed, (w'.say "COMMIT" session).close session)
  | refused {e : Error} {w' : World Server Session}
      (refused : w.server.rules.refusal? "COMMIT" = some e)
      (passed : Passage licence [session] w [] w')
      (spent : Spent number (sqls ++ "COMMIT" :: farewell w) w') :
      Committing licence number sqls session tx w (.error e, tx.ending .rolledBack, w')
  | cut {e : Error} {w' : World Server Session} (cause : e.Interrupts "commit")
      (passed : Passage licence [session] w [] w') (spent : Spent number (sqls ++ farewell w) w') :
      Committing licence number sqls session tx w (.error e, tx.ending .rolledBack, w')

theorem commit_of_live (tame : Tame licence w) (fits : licence.Fits w.server.rules)
    (owned : Owned number sqls session w) (live : tx.phase = .live session)
    (context : Context) : Committing licence number sqls session tx w (tx.commit context w) := by
  have attempt := executeIn_attempt tame context "commit" "COMMIT" session
  rw [commit, live]
  simp only
  generalize w.executeIn context "commit" "COMMIT" session = answer at attempt ⊢
  cases attempt with
  | @cut w1 e passed cause =>
      rcases rollback_after (tx.withSession session) tame fits (passed.lift [session])
        (owned.passage tame passed) rfl
        with ⟨result, w2, rolled, passed', spent⟩
      simp only [rolled]
      exact .cut cause passed' spent
  | @refused w1 e passed refused =>
      have still := owned.passage tame passed
      have rules := passed.rules tame
      -- A commit that is refused was run all the same, and stands in the log.
      have said := still.say "COMMIT"
      have speaking : Passage licence [session] w [w1.server.rules.move session "COMMIT"]
          (w1.say "COMMIT" session) :=
        (passed.lift [session]).trans (.say (fits.refused _ _ refused))
      rw [Rules.move_of_refused (rules ▸ refused)] at said speaking
      rcases rollback_after (tx.withSession session) tame fits speaking said rfl
        with ⟨result, w2, rolled, passed', spent⟩
      rw [List.append_assoc, List.singleton_append] at spent
      simp only [rolled]
      exact .refused refused passed' spent
  | @done w1 value passed accepted =>
      have rules := passed.rules tame
      simp only [← Rules.move_of_accepted (rules ▸ accepted : w1.server.rules.refusal? _ = none),
        close_move]
      exact .committed passed accepted (owned.passage tame passed)

end Transaction
end ScopedSql
