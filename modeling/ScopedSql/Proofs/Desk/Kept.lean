import ScopedSql.Proofs.Desk.Trace

namespace ScopedSql

open Scripted World

/-!
# What an action keeps

An action that writes and succeeds makes its statement durable, and nothing else.
All others make nothing durable, whatever they run and however they fail: a caller
who reads with a statement that commits finds nothing to commit.
-/

namespace Action

variable {classify : Sql.Classifier} {arguments : Arguments} {action : Action} {plan : Plan}

/-- What a plan leaves to be committed is its statement, unless it is one that a caller brought. -/
theorem workOf_plan (writes : action.writes = true)
    (made : action.plan classify arguments = .ok plan) :
    workOf plan.sql = if action = .exec then workOf plan.sql else [plan.sql] := by
  by_cases brings : action = .exec
  · rw [if_pos brings]
  · rw [if_neg brings]
    cases action.plan_suits made with
    | pooled lists =>
        subst lists
        cases writes
    | read reads place => exact nomatch writes.symm.trans reads
    | write writes place work => exact if_pos (work brings)

end Action

namespace Desk

variable {rules : Rules} {requests : List Request} {actions : Actions}

/-- The action that uses the pool keeps nothing: the sessions of a pool hold no work. -/
theorem committed_of_list {desk : Desk Server Session}
    (discreet : Discreet rules (rules.licence True).shut desk)
    (same : desk.world.server.rules = rules) (present : desk.actions = some actions)
    (context : Context) (arguments : Arguments) :
    (actions.perform context .listDatabases arguments desk.world).2.server.ledger.committed =
      desk.world.server.ledger.committed := by
  rw [Actions.perform]
  cases made : Action.listDatabases.plan actions.classify arguments with
  | error e => rfl
  | ok plan =>
      have reads := Action.listDatabases.plan_yields plan made
      simp only [Action.plan, bind_eq_ok, pure_eq_ok] at made
      rcases made with ⟨format, _, rfl⟩
      have plain : Plain "SHOW DATABASES;" := by
        rcases reads with plain | ⟨brings | brings, _⟩
        · exact plain
        · cases brings
        · cases brings
      have tame := discreet.tame.within (Licence.shut_within _)
      have passage : Passage (rules.licence True) [] desk.world []
          (actions.pool.query context "SHOW DATABASES;" desk.world).2 :=
        Pool.query_passage (discreet.actions actions present) True.intro context
          fun _ _ => plain.noCommit
      exact (passage.conduct tame).committed_eq fun sql speaks => same ▸ speaks True.intro

/-- A writing action that succeeds keeps exactly its statement, and nothing if that is a caller's
and no work.  One that fails keeps nothing, and neither does any reading action. -/
theorem committed_of_action (present : ((ofRules rules).run requests).actions = some actions)
    (context : Context) (action : Action) (arguments : Arguments) :
    let w := ((ofRules rules).run requests).world
    let answer := actions.perform context action arguments w
    (action.writes = true -> answer.1.isOk = true ->
      exists plan, action.plan actions.classify arguments = .ok plan ∧
        (action = .exec -> arguments.text Sql.statementArgument = .ok plan.sql) ∧
        answer.2.server.ledger.committed = w.server.ledger.committed ++
          if action = .exec then workOf plan.sql else [plan.sql]) ∧
    (action.writes = false ∨ answer.1.isOk = false ->
      answer.2.server.ledger.committed = w.server.ledger.committed) := by
  intro w answer
  have sound := sound_run rules False requests fun impossible => impossible.elim
  have discreet := discreet_run rules requests
  by_cases lists : action = .listDatabases
  · subst lists
    refine ⟨fun writes => (nomatch writes), fun _ => ?_⟩
    exact committed_of_list discreet sound.books.sameRules present context arguments
  · rcases actions.perform_performed context arguments discreet.tame sound.books.sameRules
      sound.books.numbered (anywhere _) lists
      with ⟨e, unopened⟩ | ⟨plan, made, _, performed, _⟩
    · have same : answer = (.error e, w) := unopened
      rw [same]
      exact ⟨fun _ impossible => (nomatch impossible), fun _ => rfl⟩
    · have committed : answer.2.server.ledger.committed = w.server.ledger.committed ++
          if action.writes && answer.1.isOk then workOf plan.sql else [] := performed.committed
      constructor
      · intro writes succeeds
        refine ⟨plan, made, fun exec => Action.sql_of_caller (Or.inr exec) made, ?_⟩
        rw [committed, writes, succeeds, ← Action.workOf_plan writes made, Bool.and_self,
          if_pos rfl]
      · intro fails
        rw [committed, if_neg, List.append_nil]
        rcases fails with reads | failed
        · simp [reads]
        · simp [failed]

/-- A branch that is created is all that is kept of the call. -/
theorem committed_of_new_branch :
    let requests : List Request :=
      [.openActions "main" (.by Scripted.connector) Scope.plain Sql.Classifier.byKeyword]
    let desk := (ofRules Rules.standard).run requests
    let actions : Actions :=
      ⟨Scripted.connector, ⟨0, Scripted.connector, []⟩, Sql.Classifier.byKeyword⟩
    let arguments : Arguments := ⟨[("database", .text "shop"), ("new_branch", .text "dev")]⟩
    let answer := actions.perform ⟨none, none⟩ .createBranch arguments desk.world
    desk.actions = some actions ∧ answer.1.isOk = true ∧
      answer.2.server.ledger.committed = ["CALL DOLT_BRANCH('dev');"] := by
  intro requests desk actions arguments answer
  have present : desk.actions = some actions := rfl
  have succeeds : answer.1.isOk = true := by decide +kernel
  have nothing : desk.world.server.ledger.committed = [] := by decide +kernel
  refine ⟨present, succeeds, ?_⟩
  rcases (committed_of_action present ⟨none, none⟩ .createBranch arguments).1 rfl succeeds
    with ⟨plan, made, _, kept⟩
  cases made
  have kept' : answer.2.server.ledger.committed =
      desk.world.server.ledger.committed ++ ["CALL DOLT_BRANCH('dev');"] := kept
  rw [kept', nothing]
  rfl

end Desk
end ScopedSql
