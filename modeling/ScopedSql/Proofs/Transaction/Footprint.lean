import ScopedSql.Desk.Command
import ScopedSql.Proofs.World.Footprint

namespace ScopedSql

open Scripted World

/-!
# Transactions keep to their sessions

Whatever is done with a transaction, and whatever its caller says in it, runs
statements on its session only.  A transaction that begins opens the session on
which all that follows is run.
-/

variable {own : Nat -> Prop} {licence : Licence} {w : World Server Session}
  {tx : Transaction Session} {context : Context}

namespace Transaction

/-- If the transaction is live, its session is one of some. -/
def KeepsTo (own : Nat -> Prop) (tx : Transaction Session) : Prop :=
  forall session, tx.phase = .live session -> own session.number

theorem keepsTo_ending (tx : Transaction Session) (ending : Ending) :
    (tx.ending ending).KeepsTo own :=
  fun _ live => nomatch live

theorem keepsTo_withSession {session : Session} (mine : own session.number)
    (tx : Transaction Session) : (tx.withSession session).KeepsTo own := by
  rintro _ ⟨⟩
  exact mine

/-! ## Ending -/

theorem rollback_progress (licence : Licence) (keeps : tx.KeepsTo own) (w : World Server Session) :
    Progress licence own w (tx.rollback w).2.2 ∧ (tx.rollback w).2.1.KeepsTo own := by
  cases phase : tx.phase with
  | ended ending =>
      rw [rollback, phase]
      exact ⟨.refl, keeps⟩
  | live session =>
      have rolled : Progress licence own w
          (w.executeIn w.cleanup "rollback" "ROLLBACK" session).2.2 :=
        (executeIn_progress licence w (keeps session phase) w.cleanup "rollback" "ROLLBACK").1
      rw [rollback, phase]
      simp only
      generalize w.executeIn w.cleanup "rollback" "ROLLBACK" session = answer at rolled ⊢
      rcases answer with ⟨e | count, session', w'⟩
      · exact ⟨rolled.trans .close, keepsTo_ending _ _⟩
      · exact ⟨rolled.trans .close, keepsTo_ending _ _⟩

theorem commit_progress (licence : Licence) (keeps : tx.KeepsTo own) (context : Context)
    (w : World Server Session) :
    Progress licence own w (tx.commit context w).2.2 ∧ (tx.commit context w).2.1.KeepsTo own := by
  cases phase : tx.phase with
  | ended ending =>
      rw [commit, phase]
      exact ⟨.refl, keeps⟩
  | live session =>
      rcases executeIn_progress licence w (keeps session phase) context "commit" "COMMIT"
        with ⟨sent, same⟩
      rw [commit, phase]
      simp only
      generalize w.executeIn context "commit" "COMMIT" session = answer at sent same ⊢
      rcases answer with ⟨e | count, session', w'⟩
      · have still : (tx.withSession session').KeepsTo own :=
          keepsTo_withSession (same ▸ keeps session phase) tx
        rcases rollback_progress licence still w' with ⟨rolled, ended⟩
        exact ⟨sent.trans rolled, ended⟩
      · exact ⟨sent.trans .close, keepsTo_ending _ _⟩

theorem drop_progress (licence : Licence) (keeps : tx.KeepsTo own) (attended : Bool)
    (w : World Server Session) : Progress licence own w (tx.drop attended w) := by
  cases phase : tx.phase with
  | ended ending =>
      rw [drop, phase]
      exact .refl
  | live session =>
      rw [drop, phase]
      cases attended with
      | false => exact .refl
      | true =>
          refine ⟨.spawn rfl ?_, fun tame => tame.spawn (fun _ spoken => nomatch spoken)
            (fun connects => nomatch connects)⟩
          rintro _ ⟨⟩
          exact keeps session phase

/-! ## Statements -/

theorem executeAs_progress (licence : Licence) (keeps : tx.KeepsTo own) (context : Context)
    (operation sql : String) (w : World Server Session) :
    Progress licence own w (tx.executeAs context operation sql w).2.2 ∧
      (tx.executeAs context operation sql w).2.1.KeepsTo own := by
  cases phase : tx.phase with
  | ended ending =>
      rw [executeAs, phase]
      exact ⟨.refl, keeps⟩
  | live session =>
      rcases executeIn_progress licence w (keeps session phase) context operation sql
        with ⟨ran, same⟩
      rw [executeAs, phase]
      exact ⟨ran, keepsTo_withSession (same ▸ keeps session phase) tx⟩

theorem query_progress (licence : Licence) (keeps : tx.KeepsTo own) (context : Context)
    (sql : String) (w : World Server Session) :
    Progress licence own w (tx.query context sql w).2.2 ∧
      (tx.query context sql w).2.1.KeepsTo own := by
  cases phase : tx.phase with
  | ended ending =>
      rw [query, phase]
      exact ⟨.refl, keeps⟩
  | live session =>
      rcases queryIn_progress licence w (keeps session phase) context "query" sql
        with ⟨ran, same⟩
      rw [query, phase]
      exact ⟨ran, keepsTo_withSession (same ▸ keeps session phase) tx⟩

end Transaction

namespace Command

theorem run_progress (licence : Licence) (keeps : tx.KeepsTo own) (command : Command)
    (context : Context) (w : World Server Session) :
    Progress licence own w (command.run context tx w).2.2 ∧
      (command.run context tx w).2.1.KeepsTo own := by
  cases command with
  | execute sql => exact Transaction.executeAs_progress licence keeps context "exec" sql w
  | query sql format => exact Transaction.query_progress licence keeps context sql w
  | rows sql => exact Transaction.query_progress licence keeps context sql w
  | commit => exact Transaction.commit_progress licence keeps context w
  | rollback => exact Transaction.rollback_progress licence keeps w
  | cancel =>
      rw [run]
      refine ⟨?_, keeps⟩
      cases context.token with
      | none => exact .refl
      | some token => exact .calm rfl (Nat.le_refl _) rfl
  | fail text => exact ⟨.refl, keeps⟩

theorem runAll_progress (licence : Licence) (keeps : tx.KeepsTo own) (commands : List Command)
    (context : Context) (w : World Server Session) :
    Progress licence own w (runAll context commands tx w).2.2 ∧
      (runAll context commands tx w).2.1.KeepsTo own := by
  induction commands generalizing tx w with
  | nil => exact ⟨.refl, keeps⟩
  | cons command rest inductionHypothesis =>
      rcases run_progress licence keeps command context w with ⟨ran, still⟩
      rw [runAll]
      generalize command.run context tx w = answer at ran still ⊢
      rcases answer with ⟨e | reply, tx', w'⟩
      · exact ⟨ran, still⟩
      · rcases inductionHypothesis still w' with ⟨others, last⟩
        exact ⟨ran.trans others, last⟩

end Command

namespace Transaction

variable {α : Type}

/-! ## Whole transactions -/

theorem bootstrap_progress (licence : Licence) (keeps : tx.KeepsTo own) (context : Context)
    (sqls : List String) (w : World Server Session) :
    Progress licence own w (tx.bootstrap context sqls w).2 ∧
      forall tx', (tx.bootstrap context sqls w).1 = .ok tx' -> tx'.KeepsTo own := by
  induction sqls generalizing tx w with
  | nil =>
      refine ⟨.refl, ?_⟩
      rintro _ ⟨⟩
      exact keeps
  | cons sql rest inductionHypothesis =>
      rcases executeAs_progress licence keeps context "bootstrap" sql w
        with ⟨ran, still⟩
      rw [bootstrap]
      generalize tx.executeAs context "bootstrap" sql w = answer at ran still ⊢
      rcases answer with ⟨e | count, tx', w'⟩
      · exact ⟨ran.trans (rollback_progress licence still w').1, fun _ made => nomatch made⟩
      · rcases inductionHypothesis still w' with ⟨others, last⟩
        exact ⟨ran.trans others, last⟩

/-- A transaction begins on the next session, if it begins. -/
theorem begin_progress (licence : Licence) (next : own (w.server.ledger.opened + 1))
    (context : Context) (connector : Connector) (scope : Scope) :
    Progress licence own w (begin context connector scope w).2 ∧
      forall tx, (begin context connector scope w).1 = .ok tx -> tx.KeepsTo own := by
  rw [begin]
  cases scope.statements with
  | error e => exact ⟨.refl, fun _ made => nomatch made⟩
  | ok statements =>
      have entered : Progress licence own w w.entered := .calm rfl (Nat.le_refl _) rfl
      rcases connectIn_cases w context connector.target with ⟨e, failed⟩ | opened
      · simp only [failed]
        exact ⟨.refl, fun _ made => nomatch made⟩
      · have mine : own (Session.fresh (w.server.ledger.opened + 1)).number := next
        rcases executeIn_progress licence w.entered mine context "begin" "START TRANSACTION"
          with ⟨ran, same⟩
        simp only [opened]
        generalize w.entered.executeIn context "begin" "START TRANSACTION"
          (Session.fresh (w.server.ledger.opened + 1)) = answer at ran same ⊢
        rcases answer with ⟨e | count, session, w'⟩
        · exact ⟨(entered.trans ran).trans .close, fun _ made => nomatch made⟩
        · have keeps : (⟨scope, .live session⟩ : Transaction Session).KeepsTo own := by
            rintro _ ⟨⟩
            exact same ▸ mine
          rcases bootstrap_progress licence keeps context statements w'
            with ⟨placed, still⟩
          exact ⟨(entered.trans ran).trans placed, still⟩

theorem finish_progress (licence : Licence) (keeps : tx.KeepsTo own) (context : Context)
    (outcome : Except Error α) (w : World Server Session) :
    Progress licence own w (tx.finish context outcome w).2.2 := by
  cases outcome with
  | error e => exact (rollback_progress licence keeps w).1
  | ok value =>
      have sent := (commit_progress licence keeps context w).1
      rw [finish]
      generalize tx.commit context w = answer at sent ⊢
      rcases answer with ⟨e | _, tx', w'⟩ <;> exact sent

/-- The work keeps to the session of its transaction, whatever that is. -/
def Body.KeepsTo (licence : Licence) (own : Nat -> Prop) (body : Body Server Session α) : Prop :=
  forall tx w, Transaction.KeepsTo own tx ->
    Progress licence own w (body tx w).2.2 ∧ (body tx w).2.1.KeepsTo own

variable {body : Body Server Session α} {connector : Connector} {scope : Scope}

theorem beginWrite_progress (licence : Licence) (next : own (w.server.ledger.opened + 1))
    (works : body.KeepsTo licence own) :
    Progress licence own w (beginWrite context connector scope body w).2 := by
  rcases begin_progress licence next context connector scope with ⟨begun, keeps⟩
  rw [beginWrite]
  generalize begin context connector scope w = answer at begun keeps ⊢
  rcases answer with ⟨e | tx, w'⟩
  · exact begun
  · rcases works tx w' (keeps tx rfl) with ⟨worked, still⟩
    exact (begun.trans worked).trans (finish_progress licence still context _ _)

theorem beginReadOnly_progress (licence : Licence) (next : own (w.server.ledger.opened + 1))
    (works : body.KeepsTo licence own) :
    Progress licence own w (beginReadOnly context connector scope body w).2 := by
  rcases begin_progress licence next context connector scope with ⟨begun, keeps⟩
  rw [beginReadOnly]
  generalize begin context connector scope w = answer at begun keeps ⊢
  rcases answer with ⟨e | tx, w'⟩
  · exact begun
  · rcases works tx w' (keeps tx rfl) with ⟨worked, still⟩
    exact (begun.trans worked).trans (rollback_progress licence still _).1

end Transaction
end ScopedSql
