import ScopedSql.Desk.Command
import ScopedSql.Proofs.World.Custody

namespace ScopedSql

/-!
# Transactions account for their sessions

A transaction that is live has its session in hand, and one that has ended has
none.  Whatever is done with a transaction, and whatever comes of it, its session
is then in the hands of what the transaction has become, with a task in the
background, or closed.
-/

variable {σ κ : Type} [Backend σ κ]

namespace Custody

variable (custody : Custody σ κ)

/-- The sessions that a transaction has in hand. -/
def held (tx : Transaction κ) : List Nat :=
  match tx.phase with
  | .live session => [custody.number session]
  | .ended _ => []

/-- The sessions that a transaction has in hand, if it has begun. -/
def heldBegun : Except Error (Transaction κ) -> List Nat
  | .ok tx => custody.held tx
  | .error _ => []

/-- Work on a transaction leaves its session with what the transaction has become. -/
def Carries {α : Type} (tx : Transaction κ) (w : World σ κ)
    (answer : Except Error α × Transaction κ × World σ κ) : Prop :=
  custody.Passes (.having (custody.held tx)) w (.having (custody.held answer.2.1)) answer.2.2

/-- The transaction has ended and its session has been seen to. -/
structure Releases {α : Type} (tx : Transaction κ) (w : World σ κ)
    (answer : Except Error α × Transaction κ × World σ κ) : Prop where
  passes : custody.Passes (.having (custody.held tx)) w .empty answer.2.2
  none : custody.held answer.2.1 = []

variable {custody} {α : Type} {tx : Transaction κ} {w : World σ κ} {session : κ}

theorem Releases.carries {answer : Except Error α × Transaction κ × World σ κ}
    (releases : custody.Releases tx w answer) : custody.Carries tx w answer := by
  unfold Carries
  rw [releases.none]
  exact releases.passes

theorem held_live (live : tx.phase = .live session) :
    custody.held tx = [custody.number session] := by
  rw [held, live]

theorem held_ended {ending : Ending} (ended : tx.phase = .ended ending) :
    custody.held tx = [] := by
  rw [held, ended]

theorem passes_ended {ending : Ending} (ended : tx.phase = .ended ending) :
    custody.Passes (.having (custody.held tx)) w .empty w := by
  rw [held_ended ended]
  exact .refl

end Custody

namespace Transaction

open Custody

variable (custody : Custody σ κ) {α : Type} (tx : Transaction κ) (context : Context)
  (w : World σ κ)

/-! ## Ending -/

theorem rollback_releases : custody.Releases tx w (tx.rollback w) := by
  rw [rollback]
  cases phase : tx.phase with
  | ended ending => exact ⟨passes_ended phase, held_ended phase⟩
  | live session =>
      have said := Passes.executeIn custody Hands.grip_holding w.cleanup session w
        "rollback" "ROLLBACK"
      rw [Hands.holding, ← held_live phase] at said
      simp only
      generalize w.executeIn w.cleanup "rollback" "ROLLBACK" session = answer at said ⊢
      rcases answer with ⟨e | count, session', w'⟩
      · exact ⟨said.trans .close, rfl⟩
      · exact ⟨said.trans .close, rfl⟩

theorem commit_releases : custody.Releases tx w (tx.commit context w) := by
  rw [commit]
  cases phase : tx.phase with
  | ended ending => exact ⟨passes_ended phase, held_ended phase⟩
  | live session =>
      have said := Passes.executeIn custody Hands.grip_holding context session w
        "commit" "COMMIT"
      rw [Hands.holding, ← held_live phase] at said
      simp only
      generalize w.executeIn context "commit" "COMMIT" session = answer at said ⊢
      rcases answer with ⟨e | count, session', w'⟩
      · have released := rollback_releases custody (tx.withSession session') w'
        exact ⟨said.trans released.passes, released.none⟩
      · exact ⟨said.trans .close, rfl⟩

/-- Where a runtime does the background work, a transaction that is let go gives its session to a
task. -/
theorem drop_passes :
    custody.Passes (.having (custody.held tx)) w .empty (tx.drop true w) := by
  rw [drop]
  cases phase : tx.phase with
  | ended ending => exact passes_ended phase
  | live session =>
      rw [held_live phase]
      exact .spawn _ (.abandon session _) True.intro

theorem finish_releases (outcome : Except Error α) :
    custody.Releases tx w (tx.finish context outcome w) := by
  cases outcome with
  | error e =>
      have released := rollback_releases custody tx w
      exact ⟨released.passes, released.none⟩
  | ok value =>
      have released := commit_releases custody tx context w
      rw [finish]
      generalize tx.commit context w = answer at released ⊢
      rcases answer with ⟨e | _, tx', w'⟩
      · exact ⟨released.passes, released.none⟩
      · exact ⟨released.passes, released.none⟩

/-! ## Statements -/

theorem executeAs_carries (operation sql : String) :
    custody.Carries tx w (tx.executeAs context operation sql w) := by
  rw [executeAs]
  cases phase : tx.phase with
  | ended ending => exact .refl
  | live session =>
      rw [Carries, held_live phase]
      exact Passes.executeIn custody Hands.grip_holding context session w operation sql

theorem query_carries (sql : String) : custody.Carries tx w (tx.query context sql w) := by
  rw [query]
  cases phase : tx.phase with
  | ended ending => exact .refl
  | live session =>
      rw [Carries, held_live phase]
      exact Passes.queryIn custody Hands.grip_holding context session w "query" sql

theorem queryText_carries (sql : String) (format : Format) :
    custody.Carries tx w (tx.queryText context sql format w) :=
  query_carries custody tx context w sql

end Transaction

namespace Command

open Custody

variable (custody : Custody σ κ) (context : Context) (tx : Transaction κ) (w : World σ κ)

theorem run_carries (command : Command) : custody.Carries tx w (command.run context tx w) := by
  cases command with
  | execute sql => exact Transaction.executeAs_carries custody tx context w "exec" sql
  | query sql format => exact Transaction.query_carries custody tx context w sql
  | rows sql => exact Transaction.query_carries custody tx context w sql
  | commit => exact (Transaction.commit_releases custody tx context w).carries
  | rollback => exact (Transaction.rollback_releases custody tx w).carries
  | cancel =>
      rw [run]
      cases context.token with
      | none => exact .refl
      | some token => exact .calm rfl rfl rfl (List.Subset.refl _)
  | fail text => exact .refl

theorem runAll_carries (commands : List Command) :
    custody.Carries tx w (runAll context commands tx w) := by
  induction commands generalizing tx w with
  | nil => exact .refl
  | cons command rest inductionHypothesis =>
      have first := run_carries custody context tx w command
      rw [runAll]
      generalize command.run context tx w = answer at first ⊢
      rcases answer with ⟨e | reply, tx', w'⟩
      · exact first
      · exact first.trans (inductionHypothesis tx' w')

end Command

namespace Transaction

open Custody

variable (custody : Custody σ κ) {α : Type} (context : Context) (w : World σ κ)

/-! ## Beginning -/

theorem bootstrap_passes (tx : Transaction κ) (sqls : List String) :
    custody.Passes (.having (custody.held tx)) w
      (.having (custody.heldBegun (tx.bootstrap context sqls w).1)) (tx.bootstrap context sqls w).2 := by
  induction sqls generalizing tx w with
  | nil => exact .refl
  | cons sql rest inductionHypothesis =>
      have first := executeAs_carries custody tx context w "bootstrap" sql
      rw [bootstrap]
      generalize tx.executeAs context "bootstrap" sql w = answer at first ⊢
      rcases answer with ⟨e | count, tx', w'⟩
      · exact first.trans (rollback_releases custody tx' w').passes
      · exact first.trans (inductionHypothesis w' tx')

/-- A beginning that fails leaves no session behind, and one that succeeds leaves one in the hands
of the transaction. -/
theorem begin_passes (connector : Connector) (scope : Scope) :
    custody.Passes .empty w (.having (custody.heldBegun (begin context connector scope w).1))
      (begin context connector scope w).2 := by
  rw [begin]
  cases scope.statements with
  | error e => exact .refl
  | ok statements =>
      have opened := Passes.connectIn custody context connector.target w
      simp only
      generalize w.connectIn context connector.target = answer at opened ⊢
      rcases answer with ⟨e | session, w'⟩
      · exact opened
      · have said := opened.trans (Passes.executeIn custody Hands.grip_holding context
          session w' "begin" "START TRANSACTION")
        simp only
        generalize w'.executeIn context "begin" "START TRANSACTION" session = answer at said ⊢
        rcases answer with ⟨e | count, session', w2⟩
        · exact said.trans .close
        · exact said.trans (bootstrap_passes custody context w2 ⟨scope, .live session'⟩ statements)

variable {body : Body σ κ α}
  (bodyCarries : forall tx w, custody.Carries tx w (body tx w))
include bodyCarries

/-- Work in a transaction from its beginning to its end leaves no session behind. -/
theorem beginWrite_passes (connector : Connector) (scope : Scope) :
    custody.Passes .empty w .empty (beginWrite context connector scope body w).2 := by
  have begun := begin_passes custody context w connector scope
  rw [beginWrite]
  generalize begin context connector scope w = answer at begun ⊢
  rcases answer with ⟨e | tx, w'⟩
  · exact begun
  · exact (begun.trans (bodyCarries tx w')).trans (finish_releases custody _ context _ _).passes

theorem beginReadOnly_passes (connector : Connector) (scope : Scope) :
    custody.Passes .empty w .empty (beginReadOnly context connector scope body w).2 := by
  have begun := begin_passes custody context w connector scope
  rw [beginReadOnly]
  generalize begin context connector scope w = answer at begun ⊢
  rcases answer with ⟨e | tx, w'⟩
  · exact begun
  · exact (begun.trans (bodyCarries tx w')).trans (rollback_releases custody _ _).passes

end Transaction
end ScopedSql
