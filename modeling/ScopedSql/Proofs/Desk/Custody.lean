import ScopedSql.Proofs.Desk.Image
import ScopedSql.Proofs.Desk.Names
import ScopedSql.Proofs.Pool.Custody
import ScopedSql.Proofs.Transaction.Custody

namespace ScopedSql

open Custody Routes

/-!
# Desks account for their sessions

What a desk has in hand is what its transactions have.  Each name stands for one
transaction, so no transaction gets out of sight without being let go.  Where a
transaction is let go and no runtime does any work in the background, its session
is left to nobody.
-/

variable {σ κ : Type} [Backend σ κ]

theorem Actions.perform_passes (custody : Custody σ κ) (actions : Actions) (context : Context)
    (action : Action) (arguments : Arguments) (w : World σ κ)
    (asks : custody.asks actions.pool.pinned) :
    custody.Passes .empty w .empty (actions.perform context action arguments w).2 := by
  rw [perform]
  split
  · exact .refl
  · rename_i plan made
    cases plan with
    | pooled sql format => exact Pool.query_passes context w asks sql
    | read scope sql format =>
        have carries := fun tx w => Transaction.queryText_carries custody tx context w sql format
        exact Transaction.beginReadOnly_passes custody context w carries actions.connector scope
    | write scope sql report =>
        have carries := fun tx w => Transaction.executeAs_carries custody tx context w "exec" sql
        exact Transaction.beginWrite_passes custody context w carries actions.connector scope

/-- Is there a runtime for the background work when the request is made? -/
def Request.attended : Request -> Bool
  | .forget _ => false
  | _ => true

/-- The statements that a request asks for, to put each session of a pool in its place. -/
def Request.pins? : Request -> Option (List String)
  | .openPool _ access scope => (access.pinned scope).statements.toOption
  | .openActions _ access scope _ => (access.pinned scope).statements.toOption
  | _ => none

namespace Desk

/-- The desk uses the pool, for single statements or for its actions. -/
def Uses (desk : Desk σ κ) (pool : Pool) : Prop :=
  desk.pool = some pool ∨ desk.actions.map Actions.pool = some pool

/-- The sessions that a request leaves to nobody. -/
def forgets (desk : Desk σ κ) : Request -> List κ
  | .forget name =>
    match (desk.transaction? name).map Transaction.phase with
    | some (.live session) => [session]
    | _ => []
  | _ => []

/-- The sessions that some requests leave to nobody. -/
def forgotten : Desk σ κ -> List Request -> List κ
  | _, [] => []
  | desk, request :: rest => desk.forgets request ++ forgotten (desk.perform request).2 rest

omit [Backend σ κ] in
theorem forgets_of_attended (desk : Desk σ κ) {request : Request}
    (attended : request.attended = true) : desk.forgets request = [] := by
  cases request with
  | forget name => cases attended
  | _ => rfl

/-- No session is left to nobody as long as a runtime does the background work. -/
theorem forgotten_of_attended (desk : Desk σ κ) {requests : List Request}
    (attended : forall request, request ∈ requests -> request.attended = true) :
    desk.forgotten requests = [] := by
  induction requests generalizing desk with
  | nil => rfl
  | cons request rest inductionHypothesis =>
      rw [forgotten, desk.forgets_of_attended (attended request List.mem_cons_self),
        List.nil_append]
      exact inductionHypothesis _ fun other member => attended other (List.mem_cons_of_mem _ member)

theorem image_forgotten {τ : Type} [Backend τ κ] {see : σ -> τ} (seen : Backend.Seen see)
    (desk : Desk σ κ) (requests : List Request) :
    (desk.image see).forgotten requests = desk.forgotten requests := by
  induction requests generalizing desk with
  | nil => rfl
  | cons request rest inductionHypothesis =>
      have same : (desk.image see).forgets request = desk.forgets request := by
        cases request <;> rfl
      rw [forgotten, forgotten, same, image_perform seen]
      exact congrArg (_ ++ ·) (inductionHypothesis _)

variable (custody : Custody σ κ)

/-- The sessions that some transactions have in hand, by number. -/
def inHand (transactions : List (String × Transaction κ)) : List Nat :=
  transactions.flatMap (fun kept => custody.held kept.2)

/-- All open sessions of a desk are accounted for: its transactions, the background work and the
pools have them, or they were left to nobody. -/
structure Accounted (desk : Desk σ κ) (lost : List Nat) : Prop where
  names : (desk.transactions.map (fun kept => kept.1)).Nodup
  asked : forall pool, desk.Uses pool -> custody.asks pool.pinned
  complete : custody.Complete (.having (inHand custody desk.transactions ++ lost)) desk.world

namespace Accounted

variable {custody} {desk desk' : Desk σ κ} {lost : List Nat} {name : String}
  {tx tx' : Transaction κ} {w : World σ κ}

/-- A request that leaves the transactions alone. -/
theorem keep (accounted : Accounted custody desk lost)
    (same : desk'.transactions = desk.transactions)
    (asked : forall pool, desk'.Uses pool -> custody.asks pool.pinned)
    (passes : custody.Passes .empty desk.world .empty desk'.world) :
    Accounted custody desk' lost :=
  ⟨same ▸ accounted.names, asked,
    same ▸ passes (.having (inHand custody desk.transactions ++ lost)) accounted.complete⟩

/-- What a transaction of the desk has in hand, apart from the rest. -/
theorem apart (accounted : Accounted custody desk lost)
    (found : desk.transaction? name = some tx) :
    custody.Complete ((Hands.having (custody.held tx)).join
      (.having (inHand custody (desk.withoutTransaction name).transactions ++ lost)))
      desk.world := by
  have same : (inHand custody desk.transactions).Perm
      (custody.held tx ++ inHand custody (desk.withoutTransaction name).transactions) :=
    (perm_of_lookup accounted.names found).flatMap_right _
  exact accounted.complete.perm
    ((same.append_right lost).trans (.of_eq (List.append_assoc _ _ _)))

/-- A transaction of the desk goes on, and the desk goes on with it. -/
theorem goOn (accounted : Accounted custody desk lost)
    (found : desk.transaction? name = some tx)
    (passes : custody.Passes (.having (custody.held tx)) desk.world
      (.having (custody.held tx')) w) :
    Accounted custody ({ desk with world := w }.withTransaction name tx') lost :=
  ⟨names_withTransaction accounted.names name tx', accounted.asked,
    (passes _ (accounted.apart found)).perm (.of_eq (List.append_assoc _ _ _).symm)⟩

/-- A transaction of the desk comes to its end, and the desk does without it. -/
theorem doWithout (accounted : Accounted custody desk lost)
    (found : desk.transaction? name = some tx)
    (passes : custody.Passes (.having (custody.held tx)) desk.world .empty w) :
    Accounted custody ({ desk with world := w }.withoutTransaction name) lost :=
  ⟨names_withoutTransaction accounted.names name, accounted.asked, passes _ (accounted.apart found)⟩

/-- A transaction begins under a name.  An older one of that name is let go. -/
theorem begin (accounted : Accounted custody desk lost) (context : Context) (name : String)
    (access : Access) (scope : Scope) :
    Accounted custody (desk.begin context name access scope).2 lost := by
  rw [Desk.begin]
  cases access.connector with
  | error e => exact accounted
  | ok connector =>
      have begun := Transaction.begin_passes custody context desk.world connector scope
      simp only
      generalize Transaction.begin context connector scope desk.world = answer at begun ⊢
      rcases answer with ⟨e | new, w'⟩
      · exact accounted.keep rfl accounted.asked begun
      · cases found : desk.transaction? name with
        | none =>
            have complete := begun (.having (inHand custody desk.transactions ++ lost))
              accounted.complete
            rw [← withoutTransaction_of_none found] at complete
            exact ⟨names_withTransaction accounted.names name new, accounted.asked,
              complete.perm (.of_eq (List.append_assoc _ _ _).symm)⟩
        | some old =>
            have both := (begun.lift (.having (custody.held old))).trans (.swap _ _)
            have dropped := (Transaction.drop_passes custody old w').lift
              (.having (custody.held new))
            exact accounted.goOn found (both.trans dropped)

theorem command (accounted : Accounted custody desk lost) (context : Context) (name : String)
    (command : Command) : Accounted custody (desk.command context name command).2 lost := by
  rw [Desk.command]
  cases found : desk.transaction? name with
  | none => exact accounted
  | some tx =>
      exact accounted.goOn found (Command.run_carries custody context tx desk.world command)

theorem drop (accounted : Accounted custody desk lost) (name : String) :
    Accounted custody (desk.drop true name) lost := by
  rw [Desk.drop]
  cases found : desk.transaction? name with
  | none => exact accounted
  | some tx => exact accounted.doWithout found (Transaction.drop_passes custody tx desk.world)

theorem finish (accounted : Accounted custody desk lost) (context : Context) (name : String)
    (outcome : Except String String) :
    Accounted custody (desk.finish context name outcome).2 lost := by
  rw [Desk.finish]
  cases found : desk.transaction? name with
  | none => exact accounted
  | some tx =>
      exact accounted.doWithout found
        (Transaction.finish_releases custody tx context desk.world (ofCaller outcome)).passes

theorem transact (accounted : Accounted custody desk lost) (context : Context) (access : Access)
    (scope : Scope) (keep : Bool) (commands : List Command) :
    Accounted custody (desk.transact context access scope keep commands).2 lost := by
  have carries := fun tx w => Command.runAll_carries custody context tx w commands
  rw [Desk.transact]
  cases access.connector with
  | error e => exact accounted
  | ok connector =>
      cases keep with
      | true =>
          exact accounted.keep rfl accounted.asked
            (Transaction.beginWrite_passes custody context desk.world carries connector scope)
      | false =>
          exact accounted.keep rfl accounted.asked
            (Transaction.beginReadOnly_passes custody context desk.world carries connector scope)

/-! ## Pools and actions -/

theorem closePool (accounted : Accounted custody desk lost) :
    Accounted custody desk.closePool lost := by
  rw [Desk.closePool]
  split
  · exact accounted
  · refine accounted.keep rfl ?_ (.removePool _)
    rintro pool (used | acts)
    · cases used
    · exact accounted.asked pool (Or.inr acts)

theorem closeActions (accounted : Accounted custody desk lost) :
    Accounted custody desk.closeActions lost := by
  rw [Desk.closeActions]
  split
  · exact accounted
  · refine accounted.keep rfl ?_ (.removePool _)
    rintro pool (used | acts)
    · exact accounted.asked pool (Or.inl used)
    · cases acts

/-- Whatever comes of starting a pool, the desk goes on, and a pool that started is pinned to
statements that were asked for. -/
theorem start (accounted : Accounted custody desk lost) (context : Context) (connector : Connector)
    {scope : Scope}
    (asks : forall pinned, scope.statements = .ok pinned -> custody.asks pinned) :
    Accounted custody { desk with world := (Pool.start context connector scope desk.world).2 }
        lost ∧
      forall pool, (Pool.start context connector scope desk.world).1 = .ok pool ->
        custody.asks pool.pinned := by
  refine ⟨accounted.keep rfl accounted.asked
    (Pool.start_passes custody context desk.world connector scope), ?_⟩
  intro pool started
  exact asks _ (Pool.statements_of_start (Prod.ext started rfl))

theorem openPool (accounted : Accounted custody desk lost) (context : Context) (access : Access)
    (scope : Scope)
    (asks : forall pinned, (access.pinned scope).statements = .ok pinned -> custody.asks pinned) :
    Accounted custody (desk.openPool context access scope).2 lost := by
  rw [Desk.openPool]
  cases access.connector with
  | error e => exact accounted.closePool
  | ok connector =>
      rcases accounted.closePool.start context connector asks with ⟨goesOn, pinned⟩
      simp only
      generalize Pool.start context connector (access.pinned scope) desk.closePool.world = answer
        at goesOn pinned ⊢
      rcases answer with ⟨e | pool, w'⟩
      · exact goesOn
      · refine goesOn.keep rfl ?_ .refl
        rintro other (used | acts)
        · exact pinned other (congrArg Except.ok (Option.some.inj used))
        · exact goesOn.asked other (Or.inr acts)

theorem openActions (accounted : Accounted custody desk lost) (context : Context) (access : Access)
    (scope : Scope) (classify : Sql.Classifier)
    (asks : forall pinned, (access.pinned scope).statements = .ok pinned -> custody.asks pinned) :
    Accounted custody (desk.openActions context access scope classify).2 lost := by
  rw [Desk.openActions]
  cases access.connector with
  | error e => exact accounted.closeActions
  | ok connector =>
      rcases accounted.closeActions.start context connector asks with ⟨goesOn, pinned⟩
      simp only
      generalize Pool.start context connector (access.pinned scope) desk.closeActions.world =
        answer at goesOn pinned ⊢
      rcases answer with ⟨e | pool, w'⟩
      · exact goesOn
      · refine goesOn.keep rfl ?_ .refl
        rintro other (used | acts)
        · exact goesOn.asked other (Or.inl used)
        · exact pinned other (congrArg Except.ok (Option.some.inj acts))

theorem withPool (accounted : Accounted custody desk lost)
    {use : Pool -> World σ κ -> Except Error Reply × World σ κ}
    (passes : forall pool w, custody.asks pool.pinned ->
      custody.Passes .empty w .empty (use pool w).2) :
    Accounted custody (desk.withPool use).2 lost := by
  rw [Desk.withPool]
  split
  · exact accounted
  · rename_i pool found
    have uses : desk.Uses pool := (Option.or_eq_some_iff.mp found).imp_right And.right
    exact accounted.keep rfl accounted.asked (passes pool desk.world (accounted.asked pool uses))

theorem act (accounted : Accounted custody desk lost) (context : Context) (action : Action)
    (arguments : Json) : Accounted custody (desk.act context action arguments).2 lost := by
  rw [Desk.act]
  split
  · exact accounted
  · rename_i actions found
    split
    · exact accounted
    · rename_i given _
      have uses : desk.Uses actions.pool := Or.inr (by rw [found, Option.map_some])
      exact accounted.keep rfl accounted.asked
        (actions.perform_passes custody context action given desk.world
          (accounted.asked actions.pool uses))

/-! ## Any request -/

/-- A transaction is let go where nobody cleans up after it. -/
theorem forget (accounted : Accounted custody desk lost) (name : String) :
    Accounted custody (desk.drop false name)
      (lost ++ (desk.forgets (.forget name)).map custody.number) := by
  rw [Desk.drop, forgets]
  cases found : desk.transaction? name with
  | none =>
      rw [Option.map_none, List.map_nil, List.append_nil]
      exact accounted
  | some tx =>
      have drops : tx.drop false desk.world = desk.world := by
        rw [Transaction.drop]
        split <;> rfl
      simp only [drops, Option.map_some]
      cases phase : tx.phase with
      | ended ending =>
          rw [List.map_nil, List.append_nil]
          exact accounted.doWithout found (passes_ended phase)
      | live session =>
          have complete := accounted.apart found
          rw [held_live phase] at complete
          refine ⟨names_withoutTransaction accounted.names name, accounted.asked, complete.perm ?_⟩
          rw [List.map_singleton, ← List.append_assoc]
          exact (List.perm_append_singleton _ _).symm

theorem answer (accounted : Accounted custody desk lost) {request : Request}
    (asks : forall pinned, request.pins? = some pinned -> custody.asks pinned)
    (attended : request.attended = true) : Accounted custody (desk.answer request).2 lost := by
  have calm : forall {w : World σ κ}, w.server = desk.world.server ->
      w.errands = desk.world.errands -> w.openings = desk.world.openings ->
      w.idle = desk.world.idle -> custody.Passes .empty desk.world .empty w :=
    fun server errands openings idle =>
      .calm server errands openings (idle ▸ List.Subset.refl _)
  cases request with
  | newContext name time share =>
      cases share <;> exact accounted.keep rfl accounted.asked (calm rfl rfl rfl rfl)
  | cleanupContext name => exact accounted.keep rfl accounted.asked (calm rfl rfl rfl rfl)
  | cancel name =>
      rw [Desk.answer, Desk.cancel]
      split
      · exact accounted
      · exact accounted.keep rfl accounted.asked (calm rfl rfl rfl rfl)
  | cancelAfter name time =>
      rw [Desk.answer, Desk.cancelAfter]
      split
      · exact accounted
      · exact accounted.keep rfl accounted.asked (.spawn time (.cancel _) True.intro)
  | contextState name => exact accounted
  | work name operation time outcome =>
      have waited := Passes.await custody .empty desk.world (desk.context name) operation time
      rw [Desk.answer, Desk.work]
      generalize desk.world.await (desk.context name) operation time = answer at waited ⊢
      rcases answer with ⟨e | _, w'⟩
      · exact accounted.keep rfl accounted.asked waited
      · exact accounted.keep rfl accounted.asked waited
  | advance time => exact accounted.keep rfl accounted.asked (.advance desk.world time)
  | begin name tx access scope => exact accounted.begin _ tx access scope
  | command name tx command => exact accounted.command _ tx command
  | drop tx => exact accounted.drop tx
  | forget tx => cases attended
  | finish name tx outcome => exact accounted.finish _ tx outcome
  | transact name access scope keep commands =>
      exact accounted.transact _ access scope keep commands
  | openPool name access scope =>
      refine accounted.openPool _ access scope fun pinned made => asks pinned ?_
      rw [Request.pins?, made, Except.toOption]
  | poolExecute name sql =>
      exact accounted.withPool fun pool w asks => Pool.execute_passes _ w asks sql
  | poolQuery name sql format =>
      exact accounted.withPool fun pool w asks => Pool.query_passes _ w asks sql
  | poolRows name sql =>
      exact accounted.withPool fun pool w asks => Pool.query_passes _ w asks sql
  | poolTarget => exact accounted.withPool fun pool w _ => .refl
  | openActions name access scope classify =>
      refine accounted.openActions _ access scope classify fun pinned made => asks pinned ?_
      rw [Request.pins?, made, Except.toOption]
  | act name action arguments => exact accounted.act _ action arguments

theorem perform (accounted : Accounted custody desk lost) (request : Request)
    (asks : forall pinned, request.pins? = some pinned -> custody.asks pinned) :
    Accounted custody (desk.perform request).2
      (lost ++ (desk.forgets request).map custody.number) := by
  have answered : Accounted custody (desk.answer request).2
      (lost ++ (desk.forgets request).map custody.number) := by
    cases attended : request.attended with
    | true =>
        rw [desk.forgets_of_attended attended, List.map_nil, List.append_nil]
        exact accounted.answer asks attended
    | false =>
        cases request with
        | forget name => exact accounted.forget name
        | _ => cases attended
  exact answered.keep rfl answered.asked (.elapse custody .empty _ _ _)

/-- Whatever is asked of a desk, its sessions stay accounted for. -/
theorem performAll (accounted : Accounted custody desk lost) (requests : List Request)
    (asks : forall request, request ∈ requests ->
      forall pinned, request.pins? = some pinned -> custody.asks pinned) :
    Accounted custody (desk.performAll requests)
      (lost ++ (desk.forgotten requests).map custody.number) := by
  induction requests generalizing desk lost with
  | nil =>
      rw [forgotten, List.map_nil, List.append_nil]
      exact accounted
  | cons request rest inductionHypothesis =>
      rw [forgotten, List.map_append, ← List.append_assoc]
      exact inductionHypothesis (accounted.perform request (asks request List.mem_cons_self))
        fun other member => asks other (List.mem_cons_of_mem _ member)

end Accounted

/-- A desk around a server with no session out. -/
theorem accounted_start {server : σ} (none : custody.Out [] server) :
    Accounted custody (Desk.start server) [] :=
  ⟨List.nodup_nil, nofun, fun _ member => (nomatch member), fun _ member => (nomatch member),
    ⟨none, tracked_nil _⟩, ⟨nofun, nofun⟩⟩

end Desk
end ScopedSql
