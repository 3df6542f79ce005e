import ScopedSql.Proofs.Desk.Discreet
import ScopedSql.Proofs.Transaction.Resolution

namespace ScopedSql

open Scripted World

/-!
# Transactions in hand

A transaction is in somebody's hands between requests, under a name, and also
while a request works on it.  Wherever it is, its session is its own, so that
every call on it is honest about what was run.
-/

variable {rules : Rules} {session : Session} {tx : Transaction Session}
  {w : World Server Session}

/-- A transaction in somebody's hands, with the world around it: a run left it under a name, or it
was begun after a run and was given commands since. -/
inductive InHand (rules : Rules) : Transaction Session -> World Server Session -> Prop
  | named {requests : List Request} {name : String} {tx : Transaction Session}
      (found : ((Desk.ofRules rules).run requests).transaction? name = some tx) :
      InHand rules tx ((Desk.ofRules rules).run requests).world
  | begun {requests : List Request} {context : Context} {connector : Connector} {scope : Scope}
      {tx : Transaction Session} {w : World Server Session}
      (begun : Transaction.begin context connector scope
        ((Desk.ofRules rules).run requests).world = (.ok tx, w)) : InHand rules tx w
  | given {tx : Transaction Session} {w : World Server Session} (inHand : InHand rules tx w)
      (context : Context) (command : Command) :
      InHand rules (command.run context tx w).2.1 (command.run context tx w).2.2

namespace InHand

/-- The session of a transaction in hand is its own. -/
theorem exclusive (inHand : InHand rules tx w) (live : tx.phase = .live session) :
    Exclusive rules session w := by
  induction inHand generalizing session with
  | @named requests name tx found =>
      have sound := Desk.sound_run rules False requests fun impossible => impossible.elim
      have standing := sound.standing_of_found found
      rw [Transaction.sessions_of_live live] at standing
      rcases standing.books.life_of_held List.mem_cons_self with ⟨life, _, _, _, owned⟩
      exact ⟨(Desk.discreet_run rules requests).tame, sound.books.sameRules, owned.absent,
        owned.unclosed⟩
  | @begun requests context connector scope tx w begun =>
      have sound := Desk.sound_run rules False requests fun impossible => impossible.elim
      have same := sound.books.sameRules
      have tame := (Desk.discreet_run rules requests).tame
      have fits : (rules.licence True).shut.Fits
          ((Desk.ofRules rules).run requests).world.server.rules := by
        rw [same]
        exact rules.shut_licence_fits True
      have outcome := Transaction.begin_cases tame fits sound.books.numbered context connector
        scope
      rw [begun] at outcome
      cases outcome with
      | @begun session' w' valid accepted passed owned =>
          cases live
          have tame' : Tame (rules.licence True).shut
              ((Desk.ofRules rules).run requests).world.entered :=
            ⟨tame.ordered, tame.spoken, tame.prompt⟩
          have number := owned.number_eq
          exact ⟨passed.tame tame', (passed.rules tame').trans same, number ▸ owned.absent,
            number ▸ owned.unclosed⟩
  | @given tx w before context command inductionHypothesis =>
      cases phase : tx.phase with
      | live session' => exact (inductionHypothesis phase).command phase context command live
      | ended ending =>
          -- A transaction that has ended stays as it is under every command.
          have turn := command.run_turn context tx w
          generalize command.run context tx w = answer at turn live
          cases turn with
          | ended ended calm => cases ended.symm.trans live
          | live phase' still other => cases phase.symm.trans phase'
          | rolledBack phase' given => cases phase.symm.trans phase'
          | finished phase' given outcome => cases phase.symm.trans phase'

end InHand

namespace Desk

/-- Every call on a live transaction is honest: what was cut off did nothing, and what was run was
run once. -/
theorem dependable_of_inHand (inHand : InHand rules tx w) (live : tx.phase = .live session)
    (context : Context) : Dependable rules context tx session w :=
  (inHand.exclusive live).dependable live context

/-- A statement that takes ten milliseconds is cut off by a cancellation after five, and the
transaction goes on. -/
theorem dependable_of_slow_statement :
    let rules := { Rules.standard with delays := [("SLOW", 10)] }
    let desk := (ofRules rules).run
      [.begin "main" "a" (.by Scripted.connector) (Scope.onDatabase "shop"),
        .cancelAfter "main" 5]
    exists tx session, desk.transaction? "a" = some tx ∧ tx.phase = .live session ∧
      Dependable rules (desk.context "main") tx session desk.world ∧
      (tx.execute (desk.context "main") "SLOW" desk.world).1 = .error (.cancelled "exec") := by
  intro rules desk
  have opened : (match desk.transaction? "a" with
      | some tx => tx.isOpen &&
          (match (tx.execute (desk.context "main") "SLOW" desk.world).1 with
            | .error e => decide (e = .cancelled "exec")
            | .ok _ => false)
      | none => false) = true := by decide +kernel
  cases found : desk.transaction? "a" with
  | none =>
      rw [found] at opened
      cases opened
  | some tx =>
      rw [found] at opened
      rcases Bool.and_eq_true_iff.mp opened with ⟨isOpen, cut⟩
      cases live : tx.phase with
      | ended ending =>
          rw [Transaction.isOpen, live] at isOpen
          cases isOpen
      | live session =>
          refine ⟨tx, session, rfl, live, dependable_of_inHand (.named found) live _, ?_⟩
          cases result : (tx.execute (desk.context "main") "SLOW" desk.world).1 with
          | error e =>
              rw [result] at cut
              rw [of_decide_eq_true cut]
          | ok count =>
              rw [result] at cut
              cases cut

end Desk
end ScopedSql
