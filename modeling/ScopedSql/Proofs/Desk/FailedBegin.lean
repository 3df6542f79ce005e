import ScopedSql.Proofs.Desk.Run

namespace ScopedSql
namespace Desk

open Scripted World Transaction

/-!
# What a failed beginning leaves behind

A transaction that does not come about leaves nothing but a closed session, and
not even that if a name was wrong or no session could be had.  The ledger shows
on the session the statements up to the one that failed, and a rollback if there
was something to roll back; what its caller sees is the failure of that statement.
-/

variable {rules : Rules} {requests : List Request} {context : Context} {connector : Connector}
  {scope : Scope} {e : Error} {w w' : World Server Session}

/-- One session was opened for a beginning that failed, and it was closed again.  It ran the
opening of the scope up to the statement that failed, that statement itself unless it was cut off,
and then a rollback unless nothing had begun or the rollback would have taken too long. -/
structure Discarded (rules : Rules) (scope : Scope) (e : Error) (w w' : World Server Session) :
    Prop where
  opened : w'.server.ledger.opened = w.server.ledger.opened + 1
  closed : w'.server.closings (w.server.ledger.opened + 1) = 1
  unheld : (w'.circulation []).Absent (w.server.ledger.opened + 1)
  log : exists before sql after run, Life.opening scope = before ++ sql :: after ∧
    (forall statement, statement ∈ before -> rules.refusal? statement = none) ∧
    Failing rules (if before = [] then "begin" else "bootstrap") sql e run ∧
    (w'.server.log (w.server.ledger.opened + 1)).map Entry.sql =
      before ++ (run ++ if before = [] then [] else farewell w)

/-- What comes of a beginning that fails.  For a name of the wrong shape nothing is done at all, and
else the failure is that of the connection or of the first statement that failed. -/
structure LeftClean (rules : Rules) (context : Context) (connector : Connector) (scope : Scope)
    (w : World Server Session) (e : Error) (w' : World Server Session) : Prop where
  invalid : ¬ scope.Valid ->
    w' = w ∧ (e = .noDatabase ∨ exists kind name, e = .invalidName kind name)
  valid : scope.Valid ->
    (w' = w ∧ w.connectIn context connector.target = (.error e, w)) ∨ Discarded rules scope e w w'

/-- What is closed for good once only what does not open sessions was done. -/
theorem Discarded.ofSpent {licence : Licence} (shut : ¬ licence.enters) (tame : Tame licence w)
    (passed : Passage licence [Session.fresh (w.server.ledger.opened + 1)] w.entered [] w')
    {before after run : List String} {sql : String}
    (split : Life.opening scope = before ++ sql :: after)
    (accepted : forall statement, statement ∈ before -> rules.refusal? statement = none)
    (failing : Failing rules (if before = [] then "begin" else "bootstrap") sql e run)
    (spent : Spent (w.server.ledger.opened + 1)
      (before ++ (run ++ if before = [] then [] else farewell w)) w') :
    Discarded rules scope e w w' := by
  have tame' : Tame licence w.entered := ⟨tame.ordered, tame.spoken, tame.prompt⟩
  refine ⟨(passed.conduct tame').opened_eq shut, spent.closed, spent.absent, ?_⟩
  refine ⟨before, sql, after, run, split, accepted, failing, ?_⟩
  rw [spent.log, Rules.transcript_sql]

/-- A beginning that fails leaves nothing behind, whatever was done before. -/
theorem leftClean_of_begin_error
    (failed : Transaction.begin context connector scope ((ofRules rules).run requests).world =
      (.error e, w')) :
    LeftClean rules context connector scope ((ofRules rules).run requests).world e w' := by
  have sound := sound_run rules False requests fun impossible => impossible.elim
  have same := sound.books.sameRules
  have tame := sound.tame
  have outcome := begin_cases tame sound.standing.fits sound.books.numbered context connector
    scope
  generalize ((ofRules rules).run requests).world = w at failed tame same outcome ⊢
  -- Nobody else opens a session meanwhile, so the one that was opened is the last.
  have shut : ¬ (rules.licence False).shut.enters := fun enters => enters
  rw [failed] at outcome
  cases outcome with
  | faulty fault =>
      refine ⟨fun _ => ⟨rfl, Scope.fault?_eq_some fault⟩, ?_⟩
      intro valid
      rw [Scope.fault?_eq_none_iff.mpr valid] at fault
      cases fault
  | unconnected faultless missed =>
      exact ⟨fun invalid => absurd (Scope.fault?_eq_none_iff.mp faultless) invalid,
        fun _ => Or.inl ⟨rfl, missed⟩⟩
  | @unbegun _ run _ faultless failing passed spent =>
      refine ⟨fun invalid => absurd (Scope.fault?_eq_none_iff.mp faultless) invalid,
        fun _ => Or.inr ?_⟩
      have first : Life.opening scope = [] ++ "START TRANSACTION" :: scope.positions := rfl
      refine .ofSpent shut tame passed first (fun _ member => nomatch member) (same ▸ failing) ?_
      rw [if_pos rfl, List.append_nil]
      exact spent
  | @unplaced _ before after run sql _ faultless split accepted failing passed spent =>
      refine ⟨fun invalid => absurd (Scope.fault?_eq_none_iff.mp faultless) invalid,
        fun _ => Or.inr ?_⟩
      have whole : Life.opening scope = ("START TRANSACTION" :: before) ++ sql :: after :=
        congrArg (List.cons _) split
      refine .ofSpent shut tame passed whole (same ▸ accepted) (same ▸ failing) ?_
      rw [if_neg (List.cons_ne_nil _ _)]
      exact spent

/-- A database that does not exist is found out by the second of three statements. -/
theorem leftClean_of_unknown_database :
    let rules := { Rules.standard with databases := some ["shop"] }
    let scope := (Scope.onDatabase "market").withBranch "main"
    let w := ((ofRules rules).run []).world
    exists w', Transaction.begin ⟨none, none⟩ Scripted.connector scope w =
        (.error (.reported "database not found: market"), w') ∧
      LeftClean rules ⟨none, none⟩ Scripted.connector scope w
        (.reported "database not found: market") w' := by
  intro rules scope w
  have fails : (match (Transaction.begin ⟨none, none⟩ Scripted.connector scope w).1 with
      | .error e => decide (e = .reported "database not found: market")
      | .ok _ => false) = true := by decide +kernel
  rcases answer : Transaction.begin ⟨none, none⟩ Scripted.connector scope w with ⟨e | tx, w'⟩
  · rw [answer] at fails
    have failed := of_decide_eq_true fails
    subst failed
    exact ⟨w', rfl, leftClean_of_begin_error answer⟩
  · rw [answer] at fails
    cases fails

end Desk
end ScopedSql
