import ScopedSql.Desk.Perform
import ScopedSql.Proofs.Action.Agreement
import ScopedSql.Proofs.Desk.Run

namespace ScopedSql

/-!
# Calls that say the same

Two calls of an action whose arguments agree on what the action needs have one
outcome and leave one state behind, on any server: the same statements on the
same sessions at the same places, and the same work committed.
-/

variable {σ κ : Type} [Backend σ κ] {arguments other : Arguments} {action : Action}

theorem Actions.perform_congr (agrees : action.Agrees arguments other) (actions : Actions)
    (context : Context) (w : World σ κ) :
    actions.perform context action other w = actions.perform context action arguments w := by
  rw [perform, perform, Action.plan_congr agrees]

namespace Desk

/-- Arguments that an action does not need change nothing, neither what it answers nor what it does,
and a text that is null or empty is as good as none.  All that it needs is read. -/
theorem perform_of_agreeing_arguments {json otherJson : Json}
    (read : Arguments.ofJson json = .ok arguments)
    (otherRead : Arguments.ofJson otherJson = .ok other)
    (agrees : action.Agrees arguments other) :
    (forall (actions : Actions) (context : Context) (w : World σ κ),
      actions.perform context action other w = actions.perform context action arguments w) ∧
      (forall (desk : Desk σ κ) (context : String),
        desk.perform (.act context action otherJson) =
          desk.perform (.act context action json)) ∧
      forall need, need ∈ action.needs -> action.Reads need := by
  refine ⟨Actions.perform_congr agrees, ?_, fun _ => action.reads_of_mem_needs⟩
  intro desk context
  have answered : desk.answer (.act context action otherJson) =
      desk.answer (.act context action json) := by
    rw [answer, answer, act, act, read, otherRead]
    cases desk.actions with
    | none => rfl
    | some actions => simp only [Actions.perform_congr agrees]
  rw [perform, perform, answered]

/-- A branch is created from no other one, whether that is said by a null, by an empty text or not
at all, and although a table and a format are named that no action knows. -/
theorem perform_of_idle_arguments :
    let json : Json := .object [("database", .text "shop"), ("force", .null),
      ("new_branch", .text "dev"), ("original_branch", .text "")]
    let otherJson : Json := .object [("database", .text "shop"), ("new_branch", .text "dev"),
      ("original_branch", .null), ("result_format", .text "xml"), ("table", .list [])]
    let requests : List Request :=
      [.openActions "main" (.by Scripted.connector) Scope.plain Sql.Classifier.byKeyword]
    let desk := (ofRules Scripted.Rules.standard).run requests
    let answer := desk.perform (.act "main" .createBranch json)
    desk.perform (.act "main" .createBranch otherJson) = answer ∧ answer.1.isOk = true ∧
      answer.2.world.server.ledger.committed = ["CALL DOLT_BRANCH('dev');"] := by
  intro json otherJson requests desk answer
  have agrees : Action.createBranch.Agrees
      ⟨[("database", .text "shop"), ("force", .null), ("new_branch", .text "dev"),
        ("original_branch", .text "")]⟩
      ⟨[("database", .text "shop"), ("new_branch", .text "dev"), ("original_branch", .null),
        ("result_format", .text "xml"), ("table", .list [])]⟩ := by
    intro need there
    simp only [Action.needs, List.mem_cons, List.not_mem_nil, or_false] at there
    rcases there with rfl | rfl | rfl | rfl <;> rfl
  refine ⟨(perform_of_agreeing_arguments rfl rfl agrees).2.1 desk "main", ?_, ?_⟩
  · decide +kernel
  · decide +kernel

end Desk
end ScopedSql
