import ScopedSql.Desk.Command

namespace ScopedSql

/-!
# The phases of a transaction

A transaction that has ended answers every command in a fixed way, stays as it is
and does nothing on the server.  One that is live stays live under statements, is
ended by a commit or a rollback, and is committed exactly if its commit succeeds.
-/

variable {σ κ : Type} [Backend σ κ] {tx : Transaction κ} {w : World σ κ} {context : Context}

/-- What a transaction that has ended answers. -/
def Command.afterEnd (ending : Ending) : Command -> Except Error Reply
  | .execute _ => .error (.finished ending)
  | .query _ _ => .error (.finished ending)
  | .rows _ => .error (.finished ending)
  | .commit => .error (.finished ending)
  | .rollback => .ok .done
  | .cancel => .ok .done
  | .fail text => .error (.reported text)

namespace Transaction

/-- A rollback ends a live transaction, whatever comes of it. -/
theorem rollback_phase {session : κ} (live : tx.phase = .live session) (w : World σ κ) :
    (tx.rollback w).2.1 = tx.ending .rolledBack := by
  rw [rollback, live]
  simp only
  rcases w.executeIn w.cleanup "rollback" "ROLLBACK" session with ⟨e | count, session', w'⟩ <;> rfl

/-- A commit ends a live transaction, which is committed exactly if the commit succeeds. -/
theorem commit_phase {session : κ} (live : tx.phase = .live session) (context : Context)
    (w : World σ κ) :
    exists ending, (tx.commit context w).2.1 = tx.ending ending ∧
      ((tx.commit context w).1.isOk = true ↔ ending = .committed) := by
  rw [commit, live]
  simp only
  rcases w.executeIn context "commit" "COMMIT" session with ⟨e | count, session', w'⟩
  · exact ⟨.rolledBack, rollback_phase rfl _, by simp [Except.isOk, Except.toBool]⟩
  · exact ⟨.committed, rfl, by simp [Except.isOk, Except.toBool]⟩

end Transaction

namespace Command

/-- What a command does to a transaction and what it answers, as far as phases go. -/
inductive Turn (command : Command) (tx : Transaction κ) (w : World σ κ) :
    Except Error Reply × Transaction κ × World σ κ -> Prop
  | ended {ending : Ending} {w' : World σ κ} (phase : tx.phase = .ended ending)
      (calm : w'.server = w.server) : Turn command tx w (command.afterEnd ending, tx, w')
  | live {session session' : κ} {result : Except Error Reply} {tx' : Transaction κ}
      {w' : World σ κ} (phase : tx.phase = .live session) (still : tx'.phase = .live session')
      (other : command ≠ .commit ∧ command ≠ .rollback) : Turn command tx w (result, tx', w')
  | rolledBack {session : κ} {result : Except Error Reply} {w' : World σ κ}
      (phase : tx.phase = .live session) (given : command = .rollback) :
      Turn command tx w (result, tx.ending .rolledBack, w')
  | finished {session : κ} {ending : Ending} {result : Except Error Reply} {w' : World σ κ}
      (phase : tx.phase = .live session) (given : command = .commit)
      (outcome : result.isOk = true ↔ ending = .committed) :
      Turn command tx w (result, tx.ending ending, w')

theorem run_turn (command : Command) (context : Context) (tx : Transaction κ) (w : World σ κ) :
    Turn command tx w (command.run context tx w) := by
  have cancelled : ((context.token.map w.cancel).getD w).server = w.server := by
    cases context.token <;> rfl
  cases phase : tx.phase with
  | ended ending =>
      cases command with
      | execute sql =>
          rw [run, Transaction.execute, Transaction.executeAs, phase]
          exact .ended phase rfl
      | query sql format =>
          rw [run, Transaction.queryText, Transaction.query, phase]
          exact .ended phase rfl
      | rows sql =>
          rw [run, Transaction.query, phase]
          exact .ended phase rfl
      | commit =>
          rw [run, Transaction.commit, phase]
          exact .ended phase rfl
      | rollback =>
          rw [run, Transaction.rollback, phase]
          exact .ended phase rfl
      | cancel => exact .ended phase cancelled
      | fail text => exact .ended phase rfl
  | live session =>
      cases command with
      | execute sql =>
          rw [run, Transaction.execute, Transaction.executeAs, phase]
          exact .live phase rfl ⟨nofun, nofun⟩
      | query sql format =>
          rw [run, Transaction.queryText, Transaction.query, phase]
          exact .live phase rfl ⟨nofun, nofun⟩
      | rows sql =>
          rw [run, Transaction.query, phase]
          exact .live phase rfl ⟨nofun, nofun⟩
      | commit =>
          rcases Transaction.commit_phase phase context w with ⟨ending, after, outcome⟩
          rw [run]
          generalize tx.commit context w = answer at after outcome ⊢
          rcases answer with ⟨result, tx', w'⟩
          cases after
          refine .finished phase rfl (Iff.trans ?_ outcome)
          cases result <;> rfl
      | rollback =>
          have after := Transaction.rollback_phase phase w
          rw [run]
          generalize tx.rollback w = answer at after ⊢
          rcases answer with ⟨result, tx', w'⟩
          cases after
          exact .rolledBack phase rfl
      | cancel => exact .live phase phase ⟨nofun, nofun⟩
      | fail text => exact .live phase phase ⟨nofun, nofun⟩

end Command
end ScopedSql
