import ScopedSql.Proofs.Desk.Run

namespace ScopedSql
namespace Desk

open Scripted

/-!
# What is durable

If callers leave it to the library to begin and end transactions, then the server
keeps the work of exactly those transactions that were committed.  The work of
each of them is kept whole and once, in the order of the commits, and nothing
else is kept: not what an open, rolled back or dropped transaction did, nor what
a pool did, nor what failed or was cut off.
-/

variable {rules : Rules} {requests : List Request}

/-- After every run the committed work consists of one block for each transaction that was
committed, and it does so already before the background work that follows a request. -/
theorem committed_eq_blocks (plainly : SpeaksPlainly requests) :
    let desk := (ofRules rules).run requests
    let history := (ofRules rules).history requests
    desk.world.server.ledger.committed = history.committed.flatMap history.block ∧
      history.committed.Nodup ∧
      (forall number, number ∈ history.committed ↔
        exists life : Life, history.of number = life.events number ∧
          life.fate = some .committed) ∧
      (forall number (life : Life), history.of number = life.events number ->
        history.block number = life.kept) ∧
      forall request : Request, (forall sql, sql ∈ request.statements -> Plain sql) ->
        (desk.answer request).2.world.server.ledger.committed =
          (history ++ desk.events request).durable := by
  intro desk history
  have sound : Sound desk.world rules True (rules.licence True).shut desk history :=
    sound_run rules True requests fun _ => plainly
  refine ⟨sound.books.durable True.intro, sound.books.committed_nodup,
    fun number => sound.books.mem_committed_iff, ?_, ?_⟩
  · intro number life told
    have regular := sound.books.regular_of_told told
    rw [History.block, told]
    exact Life.work_of_events (regular.plainly True.intro) number
  · intro request plain
    exact (sound.answer request fun _ => plain).books.durable True.intro

/-- Of two transactions one is dropped and one committed, and only the work of the latter is
kept. -/
theorem committed_eq_blocks_of_two :
    let requests : List Request :=
      [.begin "main" "a" (.by Scripted.connector) (Scope.onDatabase "shop"),
        .command "main" "a" (.execute "INSERT INTO t VALUES (1)"),
        .begin "main" "b" (.by Scripted.connector) Scope.plain,
        .command "main" "b" (.execute "INSERT INTO t VALUES (2)"),
        .drop "b",
        .command "main" "a" .commit]
    SpeaksPlainly requests ∧
      ((ofRules Rules.standard).run requests).world.server.ledger.committed =
        ["INSERT INTO t VALUES (1)"] := by
  intro requests
  have plainly : SpeaksPlainly requests := by decide +kernel
  refine ⟨plainly, ?_⟩
  rw [(committed_eq_blocks plainly).1]
  decide +kernel

end Desk
end ScopedSql
