import ScopedSql.Proofs.Scope
import ScopedSql.Proofs.Scripted.Outcome

namespace ScopedSql

open Scripted

/-!
# Where a session stands

Only a statement that selects a database or checks out a branch moves a session.
The statements of a scope move it to the database and the branch of the scope, and
there it stays until it is moved by another such statement.
-/

namespace Scripted

/-! ## Single statements -/

theorem Session.follow_of_use {sql name : String} (read : Control.read sql = .use name)
    (session : Session) :
    session.follow sql = { session with database := some name, branch := none } := by
  rw [follow, read]

theorem Session.follow_of_checkout {sql name : String} (read : Control.read sql = .checkout name)
    (session : Session) : session.follow sql = { session with branch := some name } := by
  rw [follow, read]

/-- A statement that does not move its session leaves it where it stands. -/
theorem Rules.move_place {sql : String} (still : (Control.read sql).moves = false) (rules : Rules)
    (session : Session) : (rules.move session sql).database = session.database ∧
      (rules.move session sql).branch = session.branch := by
  cases refused : rules.refusal? sql with
  | some e =>
      rw [move_of_refused refused]
      exact ⟨rfl, rfl⟩
  | none =>
      rw [move_of_accepted refused, Session.follow]
      cases read : Control.read sql with
      | use name =>
          rw [read] at still
          cases still
      | checkout name =>
          rw [read] at still
          cases still
      | _ => exact ⟨rfl, rfl⟩

/-- Up to and including the first statement that moves it, a session runs statements where it
stands. -/
theorem Rules.transcript_place {rules : Rules} {session : Session} {sqls : List String}
    {earlier rest : List Entry} {entry : Entry}
    (split : rules.transcript session sqls = earlier ++ entry :: rest)
    (still : forall other, other ∈ earlier -> (Control.read other.sql).moves = false) :
    entry.database = session.database ∧ entry.branch = session.branch := by
  -- The session keeps its place from one statement to the next, so its state is general.
  induction sqls generalizing session earlier with
  | nil =>
      rw [transcript] at split
      exact absurd split.symm (by simp)
  | cons sql others inductionHypothesis =>
      rw [transcript] at split
      cases earlier with
      | nil =>
          cases (List.cons.inj split).1
          exact ⟨rfl, rfl⟩
      | cons first earlier =>
          rcases List.cons.inj split with ⟨same, split⟩
          have stays : (Control.read sql).moves = false := by
            have here := still first List.mem_cons_self
            rw [← same] at here
            exact here
          rcases rules.move_place stays session with ⟨database, branch⟩
          have stillRest : forall other, other ∈ earlier ->
              (Control.read other.sql).moves = false := by
            intro other member
            exact still other (List.mem_cons_of_mem _ member)
          rcases inductionHypothesis split stillRest with ⟨sameDatabase, sameBranch⟩
          exact ⟨sameDatabase.trans database, sameBranch.trans branch⟩

/-- What the ledger notes when a session is put on a database and a branch. -/
def openingEntries (number : Nat) (database branch : Option String) : List Entry :=
  ⟨number, none, none, "START TRANSACTION"⟩ ::
    ((database.map (fun name => ⟨number, none, none, Scope.useStatement name⟩)).toList ++
      (branch.map (fun name => ⟨number, database, none, Scope.checkoutStatement name⟩)).toList)

/-- The statements of a scope move a new session to its database and its branch. -/
theorem Rules.transcript_opening {rules : Rules} {scope : Scope} (valid : scope.Valid)
    (begun : rules.refusal? "START TRANSACTION" = none)
    (placed : forall sql, sql ∈ scope.positions -> rules.refusal? sql = none) (number : Nat) :
    rules.transcript (Session.fresh number) ("START TRANSACTION" :: scope.positions) =
        openingEntries number scope.database? scope.branch? ∧
      (rules.replay (Session.fresh number) ("START TRANSACTION" :: scope.positions)).database =
        scope.database? ∧
      (rules.replay (Session.fresh number) ("START TRANSACTION" :: scope.positions)).branch =
        scope.branch? := by
  have first : rules.move (Session.fresh number) "START TRANSACTION" = Session.fresh number := by
    rw [Rules.move_of_accepted begun, Session.follow, Control.read_begin]
    rfl
  have selected : forall name, scope.database? = some name -> forall session : Session,
      rules.move session (Scope.useStatement name) =
        { session with database := some name, branch := none } := by
    intro name given session
    have member : Scope.useStatement name ∈ scope.positions := by
      rw [Scope.positions, given]
      exact List.mem_cons_self
    rw [Rules.move_of_accepted (placed _ member)]
    exact Session.follow_of_use (read_use (valid.database name given)) session
  have checkedOut : forall name, scope.branch? = some name -> forall session : Session,
      rules.move session (Scope.checkoutStatement name) = { session with branch := some name } := by
    intro name given session
    have member : Scope.checkoutStatement name ∈ scope.positions := by
      rw [Scope.positions, given]
      exact List.mem_append.mpr (Or.inr List.mem_cons_self)
    rw [Rules.move_of_accepted (placed _ member)]
    exact Session.follow_of_checkout (read_checkout (valid.branch name given)) session
  rw [Rules.transcript, Rules.replay_cons, first, openingEntries, Scope.positions]
  cases database : scope.database? <;> cases branch : scope.branch? <;>
    simp [Rules.transcript, Rules.replay_nil, Session.entry, Session.fresh, selected, checkedOut,
      database, branch]

/-! ## Statements that are accepted -/

/-- A server that knows every name refuses nothing. -/
theorem Rules.refusal?_standard (sql : String) : Rules.standard.refusal? sql = none := by
  have noFailure : ruleFor? sql Rules.standard.failures = none := rfl
  unfold Rules.refusal?
  rw [noFailure]
  cases Control.read sql <;> rfl

/-- While all statements but the last are accepted, the ledger notes what it would note on a server
that refuses nothing. -/
theorem Rules.transcript_eq_standard {rules : Rules} {sqls : List String}
    (accepted : forall sql, sql ∈ sqls.dropLast -> rules.refusal? sql = none) (session : Session) :
    rules.transcript session sqls = Rules.standard.transcript session sqls := by
  induction sqls generalizing session with
  | nil => rfl
  | cons sql rest inductionHypothesis =>
      cases rest with
      | nil => rfl
      | cons next others =>
          rw [List.dropLast_cons_cons] at accepted
          have here : rules.move session sql = Rules.standard.move session sql := by
            rw [Rules.move_of_accepted (accepted sql List.mem_cons_self),
              Rules.move_of_accepted (refusal?_standard sql)]
          have later := inductionHypothesis
            (fun other member => accepted other (List.mem_cons_of_mem _ member))
            (Rules.standard.move session sql)
          rw [transcript, here, later]
          rfl

/-- What is noted of the first statements comes first. -/
theorem Rules.transcript_prefix {before after : List String} (part : before <+: after)
    (rules : Rules) (session : Session) :
    rules.transcript session before <+: rules.transcript session after := by
  rcases part with ⟨rest, rfl⟩
  rw [transcript_append]
  exact List.prefix_append _ _

end Scripted
end ScopedSql
