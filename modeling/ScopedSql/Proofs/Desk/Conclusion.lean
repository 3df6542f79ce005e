import ScopedSql.Proofs.Desk.Interruption
import ScopedSql.Proofs.Transaction.Conclusion

namespace ScopedSql

open Scripted World

/-!
# Work in transactions in hand

Whatever a program does to a transaction in hand, the transaction stays in hand.
So what follows the work decides once, also if the program has ended the
transaction or has cancelled its context.
-/

variable {rules : Rules} {tx : Transaction Session} {w : World Server Session} {α : Type}

namespace InHand

theorem program (inHand : InHand rules tx w) (program : Program α) :
    InHand rules (program.body tx w).2.1 (program.body tx w).2.2 := by
  induction program generalizing tx w with
  | outcome result => exact inHand
  | ask context command next inductionHypothesis =>
      exact inductionHypothesis _ (inHand.given context command)

theorem isPrivate (inHand : InHand rules tx w) : tx.Private rules w := by
  intro session live
  exact inHand.exclusive live

end InHand

/-- Commands that are given until the first one that fails are such a program. -/
theorem Transaction.runAll_decides (inHand : InHand rules tx w) (context : Context)
    (commands : List Command) :
    let body : Body Server Session (List Reply) := Command.runAll context commands
    Decides rules context (body tx w).1 (body tx w).2.1 (body tx w).2.2
      (tx.write context body w) := by
  intro body
  have own := (inHand.program (.ofCommands context commands)).isPrivate
  rw [Program.body_ofCommands] at own
  exact write_decides own context

namespace Desk

/-- Work in a transaction is kept exactly if its outcome is good and the commit succeeds, and the
caller is told so.  Work that only reads is never kept, and what it comes to is passed on.  If
nobody worked on the transaction, any outcome decides in the same way. -/
theorem decided_of_inHand (inHand : InHand rules tx w) (program : Program α)
    (context : Context) :
    let after := program.body tx w
    Decides rules context after.1 after.2.1 after.2.2 (tx.write context program.body w) ∧
      Discards rules after.1 after.2.1 after.2.2 (tx.readOnly program.body w) ∧
      forall outcome : Except Error α,
        Decides rules context outcome tx w (tx.finish context outcome w) := by
  intro after
  have own : after.2.1.Private rules after.2.2 := (inHand.program program).isPrivate
  exact ⟨Transaction.write_decides own context, Transaction.readOnly_discards own,
    Transaction.finish_decides inHand.isPrivate context⟩

/-- After an insertion the server refuses the commit and then the rollback.  The caller learns of
the commit. -/
theorem decided_of_refused_commit :
    let rules :=
      { Rules.standard with failures := [("COMMIT", "disk full"), ("ROLLBACK", "lost")] }
    let desk := (ofRules rules).run [.begin "main" "a" (.by Scripted.connector) .plain]
    let context := desk.context "main"
    let program : Program Nat := .ask context (.execute "INSERT 1") fun _ => .outcome (.ok 7)
    exists tx, desk.transaction? "a" = some tx ∧
      (tx.write context program.body desk.world).1 = .error (.reported "disk full") ∧
      let after := program.body tx desk.world
      Decides rules context after.1 after.2.1 after.2.2
          (tx.write context program.body desk.world) ∧
        Discards rules after.1 after.2.1 after.2.2 (tx.readOnly program.body desk.world) ∧
        forall outcome : Except Error Nat,
          Decides rules context outcome tx desk.world (tx.finish context outcome desk.world) := by
  intro rules desk context program
  have refused : (desk.transaction? "a").map
      (fun tx => (tx.write context program.body desk.world).1) =
        some (.error (.reported "disk full")) := by decide +kernel
  rcases Option.map_eq_some_iff.mp refused with ⟨tx, found, told⟩
  exact ⟨tx, found, told, decided_of_inHand (.named found) program context⟩

end Desk
end ScopedSql
