import ScopedSql.Proofs.Action.Needs
import ScopedSql.Proofs.Desk.Blame
import ScopedSql.Proofs.Desk.Run

namespace ScopedSql

/-!
# Bad input is told at once

A name that is not one, an argument that is missing or of the wrong type and a
statement of the wrong kind are told to the caller, in whatever state context and
server are.  Nothing is asked of the server before.  Only a classifier of the
caller may fail first, and then its own error is told.
-/

/-! ## Configurations -/

theorem Config.validate_blaming (config : Config) : Blaming config.validate := by
  unfold validate
  repeat' split
  all_goals first | exact .ok _ | exact .error rfl

theorem Config.readDsn_blaming (dsn : String) : Blaming (readDsn dsn) := by
  unfold readDsn
  simp only
  split
  · exact .ok _
  · exact .error rfl

/-- A configuration from which no connection can be described is at fault itself. -/
theorem Config.connectOptions_blaming (config : Config) : Blaming config.connectOptions := by
  have separate : Blaming config.separateOptions :=
    (FailsBy.mapM_option (Name.check_blaming .database) _).bind fun _ => .ok _
  refine config.validate_blaming.bind fun _ =>
    (FailsBy.mapM_option (Name.check_blaming .branch) _).bind fun _ => ?_
  cases config.dsnOverride with
  | none => exact separate.bind fun _ => .ok _
  | some dsn => exact (readDsn_blaming dsn).bind fun _ => .ok _

theorem Access.connector_blaming (access : Access) : Blaming access.connector := by
  rcases access with connector | config
  · exact .ok _
  · exact config.connectOptions_blaming.bind fun _ => .ok _

/-! ## Names of a scope -/

theorem Scope.statements_of_invalid {scope : Scope} (invalid : ¬ scope.Valid) :
    exists e, e.inInput = true ∧ scope.statements = .error e := by
  cases fault : scope.fault? with
  | none => exact absurd (fault?_eq_none_iff.mp fault) invalid
  | some e =>
      refine ⟨e, ?_, by rw [statements_eq, fault]⟩
      rcases fault?_eq_some fault with rfl | ⟨kind, name, rfl⟩ <;> rfl

variable {σ κ : Type} [Backend σ κ] {scope : Scope}

theorem Transaction.begin_of_invalid (invalid : ¬ scope.Valid) (context : Context)
    (connector : Connector) (w : World σ κ) :
    exists e, e.inInput = true ∧ begin context connector scope w = (.error e, w) := by
  rcases scope.statements_of_invalid invalid with ⟨e, blamed, refused⟩
  exact ⟨e, blamed, by rw [begin, refused]⟩

theorem Pool.start_of_invalid (invalid : ¬ scope.Valid) (context : Context)
    (connector : Connector) (w : World σ κ) :
    exists e, e.inInput = true ∧ start context connector scope w = (.error e, w) := by
  rcases scope.statements_of_invalid invalid with ⟨e, blamed, refused⟩
  exact ⟨e, blamed, by rw [start, refused]⟩

/-! ## Arguments of an action -/

namespace Action

/-- All that an action needs is there, and a statement of the kind that it asks for. -/
structure Supplied (classify : Sql.Classifier) (arguments : Arguments) (action : Action) :
    Prop where
  needs : forall need, need ∈ action.needs -> need.Met arguments
  kind : forall kind, action.expects? = some kind -> exists sql,
    arguments.text Sql.statementArgument = .ok sql ∧ classify sql = .ok kind

end Action

/-- An action that lacks something fails before it does anything. -/
theorem Actions.perform_of_unsupplied {action : Action} (actions : Actions)
    {arguments : Arguments} (lacks : ¬ action.Supplied actions.classify arguments)
    (context : Context) (w : World σ κ) :
    exists e, action.Unplanned actions.classify arguments e ∧
      actions.perform context action arguments w = (.error e, w) := by
  rw [perform]
  cases made : action.plan actions.classify arguments with
  | error e => exact ⟨e, action.plan_fails e made, rfl⟩
  | ok plan =>
      -- A plan came out, so what is lacking can only be a name of the scope, which is looked at
      -- when the transaction begins.
      have misplaced : ¬ (action.place arguments).Valid := fun valid =>
        lacks ⟨action.needs_met made valid, fun kind asked => Action.kind_of_plan made asked⟩
      cases action.plan_suits made with
      | pooled lists =>
          subst lists
          exact absurd ⟨by rintro _ ⟨⟩, by rintro _ ⟨⟩⟩ misplaced
      | @read scope sql format reads place =>
          subst place
          rcases Transaction.begin_of_invalid misplaced context actions.connector w
            with ⟨e, blamed, refused⟩
          refine ⟨e, Or.inl blamed, ?_⟩
          simp only [carryOut, Transaction.beginReadOnly, refused]
      | @write scope sql report writes place work =>
          subst place
          rcases Transaction.begin_of_invalid misplaced context actions.connector w
            with ⟨e, blamed, refused⟩
          refine ⟨e, Or.inl blamed, ?_⟩
          simp only [carryOut, Transaction.beginWrite, refused]
          rfl

namespace Desk

/-- A desk tells bad input before it asks anything of its server. -/
structure Guards (desk : Desk σ κ) : Prop where
  /-- Whatever fails for what was given has opened no session and sent nothing. -/
  harmless : forall request, desk.HarmlessTo (desk.answer request)
  begins : forall context tx access scope, ¬ scope.Valid ->
    exists e, e.inInput = true ∧ desk.answer (.begin context tx access scope) = (.error e, desk)
  transacts : forall context access scope keep commands, ¬ scope.Valid ->
    exists e, e.inInput = true ∧
      desk.answer (.transact context access scope keep commands) = (.error e, desk)
  opensPool : forall context access scope, ¬ (access.pinned scope).Valid ->
    exists e, e.inInput = true ∧
      desk.answer (.openPool context access scope) = (.error e, desk.closePool)
  opensActions : forall context access scope classify, ¬ (access.pinned scope).Valid ->
    exists e, e.inInput = true ∧
      desk.answer (.openActions context access scope classify) = (.error e, desk.closeActions)
  reads : forall actions context action json e, desk.actions = some actions ->
    Arguments.ofJson json = .error e -> e.inInput = true ∧
      desk.answer (.act context action json) = (.error e, desk)
  acts : forall actions context action json arguments, desk.actions = some actions ->
    Arguments.ofJson json = .ok arguments -> ¬ action.Supplied actions.classify arguments ->
    exists e, action.Unplanned actions.classify arguments e ∧
      desk.answer (.act context action json) = (.error e, desk)

theorem guards_of_sober (sober : Backend.Sober σ κ) (desk : Desk σ κ) : Guards desk where
  harmless := desk.answer_harmless sober
  begins := by
    intro context tx access scope invalid
    rw [answer, begin]
    cases reached : access.connector with
    | error e => exact ⟨e, access.connector_blaming e reached, rfl⟩
    | ok connector =>
        rcases Transaction.begin_of_invalid invalid (desk.context context) connector desk.world
          with ⟨e, blamed, refused⟩
        simp only [refused]
        exact ⟨e, blamed, rfl⟩
  transacts := by
    intro context access scope keep commands invalid
    rw [answer, transact]
    cases reached : access.connector with
    | error e => exact ⟨e, access.connector_blaming e reached, rfl⟩
    | ok connector =>
        rcases Transaction.begin_of_invalid invalid (desk.context context) connector desk.world
          with ⟨e, blamed, refused⟩
        refine ⟨e, blamed, ?_⟩
        cases keep with
        | true =>
            simp only [if_pos, Transaction.beginWrite, refused]
            rfl
        | false =>
            simp only [Bool.false_eq_true, if_false, Transaction.beginReadOnly, refused]
            rfl
  opensPool := by
    intro context access scope invalid
    rw [answer, openPool]
    cases reached : access.connector with
    | error e => exact ⟨e, access.connector_blaming e reached, rfl⟩
    | ok connector =>
        rcases Pool.start_of_invalid invalid (desk.context context) connector desk.closePool.world
          with ⟨e, blamed, refused⟩
        simp only [refused]
        exact ⟨e, blamed, rfl⟩
  opensActions := by
    intro context access scope classify invalid
    rw [answer, openActions]
    cases reached : access.connector with
    | error e => exact ⟨e, access.connector_blaming e reached, rfl⟩
    | ok connector =>
        rcases Pool.start_of_invalid invalid (desk.context context) connector
          desk.closeActions.world with ⟨e, blamed, refused⟩
        simp only [refused]
        exact ⟨e, blamed, rfl⟩
  reads := by
    intro actions context action json e present unread
    constructor
    · cases json <;> cases unread <;> rfl
    · simp only [answer, act, present, unread]
  acts := by
    intro actions context action json arguments present read lacks
    rcases actions.perform_of_unsupplied lacks (desk.context context) desk.world
      with ⟨e, fails, refused⟩
    refine ⟨e, fails, ?_⟩
    rw [answer, act, present]
    simp only [read, refused]
    rw [← present]
    rfl

/-- Bad input is told at once and stays away from the server, whether that is one in memory or one
on the network. -/
theorem guards_of_any_desk :
    (forall desk : Desk Scripted.Server Scripted.Session, desk.Guards) ∧
      forall desk : Desk Wire.Server Wire.Session, desk.Guards :=
  ⟨guards_of_sober Scripted.sober, guards_of_sober Wire.sober⟩

/-- A branch that has no name which could be right is told even when the request has been cancelled
and the server cannot be reached. -/
theorem guards_of_cancelled_desk :
    let rules : Scripted.Rules := { Scripted.Rules.standard with connectFailure := some "refused" }
    let desk := (ofRules rules).run [.cancel "main"]
    exists e, e.inInput = true ∧
      desk.answer (.begin "main" "a" (.by Scripted.connector) (Scope.onBranch "a b")) =
        (.error e, desk) := by
  intro rules desk
  have invalid : ¬ (Scope.onBranch "a b").Valid := by
    intro valid
    have accepted := valid.branch "a b" rfl
    revert accepted
    decide
  exact (guards_of_any_desk.1 desk).begins "main" "a" (.by Scripted.connector)
    (Scope.onBranch "a b") invalid

/-- A classifier that cannot judge is asked before the names are looked at: no error tells of the
database, which has no name that could be right. -/
theorem classifier_fails_before_names :
    let classify : Sql.Classifier := fun sql => .error (.reported ("cannot classify: " ++ sql))
    let requests : List Request :=
      [.openActions "main" (.by Scripted.connector) Scope.plain classify]
    let desk := (ofRules Scripted.Rules.standard).run requests
    let arguments : Arguments :=
      ⟨[("database", .text "bad name!"), ("query", .text "SELECT 1")]⟩
    let answer := desk.answer (.act "main" .query (.object arguments.fields))
    desk.actions.isSome = true ∧ ¬ (Action.query.place arguments).Valid ∧
      exists e, answer.1 = .error e ∧ e = .reported "cannot classify: SELECT 1" ∧
        e.inInput = false := by
  intro classify requests desk arguments answer
  refine ⟨rfl, ?_, _, rfl, rfl, rfl⟩
  intro valid
  have accepted := valid.database "bad name!" rfl
  revert accepted
  decide

end Desk
end ScopedSql
