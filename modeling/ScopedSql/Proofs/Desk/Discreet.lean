import ScopedSql.Proofs.Desk.Run
import ScopedSql.Proofs.Transaction.Footprint

namespace ScopedSql

open Scripted World

/-!
# The background work is discreet

Whatever callers say, the background work puts sessions of pools on their scopes
and closes sessions that were left behind, and that commits nothing.  So a desk
is discreet after every run, also after one in which callers begin and commit by
statements of their own.
-/

variable {licence : Licence} {rules : Rules} {w : World Server Session}
  {desk desk' : Desk Server Session} {tx : Transaction Session} {context : Context}

theorem World.putBack_tame (tame : Tame licence w) (pool : Nat) (session : Session) :
    Tame licence (w.putBack pool session) :=
  have passage : Passage licence [session] w [] (w.putBack pool session) := .putBack pool
  passage.tame tame

theorem World.removePool_tame (tame : Tame licence w) (pool : Nat) :
    Tame licence (w.removePool pool) :=
  have passage : Passage licence [] w [] (w.removePool pool) := .removePool pool
  passage.tame tame

namespace Pool

/-- A pool keeps the background work to its licence, whatever its caller says. -/
theorem execute_tame {pool : Pool} (within : pool.Within licence) (enters : licence.enters)
    (tame : Tame licence w) (context : Context) (sql : String) :
    Tame licence (pool.execute context sql w).2 := by
  have acquired := (acquire_passage within enters context).tame tame
  rw [execute]
  generalize pool.acquire context w = lent at acquired ⊢
  rcases lent with ⟨e | session, w'⟩
  · exact acquired
  · have ran := (executeIn_progress licence w' (anywhere session.number) context "exec"
      sql).1.tame acquired
    exact putBack_tame ran pool.number _

theorem query_tame {pool : Pool} (within : pool.Within licence) (enters : licence.enters)
    (tame : Tame licence w) (context : Context) (sql : String) :
    Tame licence (pool.query context sql w).2 := by
  have acquired := (acquire_passage within enters context).tame tame
  rw [query]
  generalize pool.acquire context w = lent at acquired ⊢
  rcases lent with ⟨e | session, w'⟩
  · exact acquired
  · have ran := (queryIn_progress licence w' (anywhere session.number) context "query"
      sql).1.tame acquired
    exact putBack_tame ran pool.number _

end Pool

namespace Desk

/-- The background work and the pools of a desk run nothing that commits. -/
structure Discreet (rules : Rules) (licence : Licence) (desk : Desk Server Session) : Prop where
  tame : Tame licence desk.world
  pool : forall pool, desk.pool = some pool -> pool.Within (rules.licence True)
  actions : forall actions, desk.actions = some actions -> actions.pool.Within (rules.licence True)

namespace Discreet

/-- What keeps the background work to its licence keeps the desk discreet. -/
theorem keep (discreet : Discreet rules (rules.licence True).shut desk)
    (tame : Tame (rules.licence True) desk.world -> Tame (rules.licence True) desk'.world)
    (pool : desk'.pool = desk.pool) (actions : desk'.actions = desk.actions) :
    Discreet rules (rules.licence True) desk' :=
  ⟨tame (discreet.tame.within (Licence.shut_within _)), pool ▸ discreet.pool,
    actions ▸ discreet.actions⟩

theorem same (discreet : Discreet rules (rules.licence True).shut desk) :
    Discreet rules (rules.licence True) desk :=
  discreet.keep (fun tame => tame) rfl rfl

/-- The pool for single statements is one of those of the desk. -/
theorem within {licence : Licence} {pool : Pool} (discreet : Discreet rules licence desk)
    (found : desk.pool? = some pool) : pool.Within (rules.licence True) := by
  rw [Desk.pool?, Option.or_eq_some_iff] at found
  rcases found with found | ⟨_, found⟩
  · exact discreet.pool pool found
  · rcases Option.map_eq_some_iff.mp found with ⟨actions, present, rfl⟩
    exact discreet.actions actions present

/-! ## Transactions -/

theorem keepsTo_anywhere (tx : Transaction Session) : tx.KeepsTo Anywhere :=
  fun session _ => anywhere session.number

theorem begin (discreet : Discreet rules (rules.licence True).shut desk) (context : Context)
    (name : String) (access : Access) (scope : Scope) :
    Discreet rules (rules.licence True) (desk.begin context name access scope).2 := by
  rw [Desk.begin]
  cases access.connector with
  | error e => exact discreet.same
  | ok connector =>
      have begun := (Transaction.begin_progress (rules.licence True)
        (anywhere (desk.world.server.ledger.opened + 1)) context connector scope).1
      simp only
      generalize Transaction.begin context connector scope desk.world = answer at begun ⊢
      rcases answer with ⟨e | new, world⟩
      · exact discreet.keep begun.tame rfl rfl
      · cases desk.transaction? name with
        | none => exact discreet.keep begun.tame rfl rfl
        | some old =>
            have dropped := Transaction.drop_progress (rules.licence True) (keepsTo_anywhere old)
              true world
            exact discreet.keep (begun.trans dropped).tame rfl rfl

theorem command (discreet : Discreet rules (rules.licence True).shut desk) (context : Context)
    (name : String) (command : Command) :
    Discreet rules (rules.licence True) (desk.command context name command).2 := by
  rw [Desk.command]
  cases desk.transaction? name with
  | none => exact discreet.same
  | some tx =>
      have ran := command.run_progress (rules.licence True) (keepsTo_anywhere tx) context desk.world
      exact discreet.keep ran.1.tame rfl rfl

theorem drop (discreet : Discreet rules (rules.licence True).shut desk) (attended : Bool)
    (name : String) : Discreet rules (rules.licence True) (desk.drop attended name) := by
  rw [Desk.drop]
  cases desk.transaction? name with
  | none => exact discreet.same
  | some tx =>
      have dropped := Transaction.drop_progress (rules.licence True) (keepsTo_anywhere tx)
        attended desk.world
      exact discreet.keep dropped.tame rfl rfl

theorem finish (discreet : Discreet rules (rules.licence True).shut desk) (context : Context)
    (name : String) (outcome : Except String String) :
    Discreet rules (rules.licence True) (desk.finish context name outcome).2 := by
  rw [Desk.finish]
  cases desk.transaction? name with
  | none => exact discreet.same
  | some tx =>
      have finished := Transaction.finish_progress (rules.licence True) (keepsTo_anywhere tx)
        context (ofCaller outcome) desk.world
      exact discreet.keep finished.tame rfl rfl

theorem transact (discreet : Discreet rules (rules.licence True).shut desk) (context : Context)
    (access : Access) (scope : Scope) (keep : Bool) (commands : List Command) :
    Discreet rules (rules.licence True)
      (desk.transact context access scope keep commands).2 := by
  have works : Transaction.Body.KeepsTo (rules.licence True) Anywhere
      (Command.runAll context commands) :=
    fun tx w keeps => Command.runAll_progress (rules.licence True) keeps commands context w
  rw [Desk.transact]
  cases access.connector with
  | error e => exact discreet.same
  | ok connector =>
      cases keep with
      | true =>
          exact discreet.keep (Transaction.beginWrite_progress _ (anywhere _) works).tame rfl rfl
      | false =>
          exact discreet.keep (Transaction.beginReadOnly_progress _ (anywhere _) works).tame rfl rfl

/-! ## Pools and actions -/

theorem openPool (discreet : Discreet rules (rules.licence True).shut desk) (context : Context)
    (access : Access) (scope : Scope) :
    Discreet rules (rules.licence True) (desk.openPool context access scope).2 := by
  have tame := discreet.tame.within (Licence.shut_within _)
  have closed : Tame (rules.licence True) desk.closePool.world ∧ desk.closePool.pool = none ∧
      desk.closePool.actions = desk.actions := by
    rw [Desk.closePool]
    split
    · rename_i none
      exact ⟨tame, none, rfl⟩
    · exact ⟨removePool_tame tame _, rfl, rfl⟩
  rcases closed with ⟨tame, noPool, actions⟩
  have actions' := actions ▸ discreet.actions
  have nonePool : forall pool, desk.closePool.pool = some pool ->
      pool.Within (rules.licence True) := by
    intro pool present
    cases noPool.symm.trans present
  rw [Desk.openPool]
  cases access.connector with
  | error e => exact ⟨tame, nonePool, actions'⟩
  | ok connector =>
      rcases start_within rules True context connector (access.pinned scope) desk.closePool.world
        with ⟨opened, within⟩
      simp only
      generalize Pool.start context connector (access.pinned scope) desk.closePool.world = answer
        at opened within ⊢
      rcases answer with ⟨e | pool, world⟩
      · exact ⟨opened.tame tame, nonePool, actions'⟩
      · refine ⟨opened.tame tame, ?_, actions'⟩
        rintro other ⟨⟩
        exact within pool rfl

theorem openActions (discreet : Discreet rules (rules.licence True).shut desk) (context : Context)
    (access : Access) (scope : Scope) (classify : Sql.Classifier) :
    Discreet rules (rules.licence True) (desk.openActions context access scope classify).2 := by
  have tame := discreet.tame.within (Licence.shut_within _)
  have closed : Tame (rules.licence True) desk.closeActions.world ∧
      desk.closeActions.actions = none ∧ desk.closeActions.pool = desk.pool := by
    rw [Desk.closeActions]
    split
    · rename_i none
      exact ⟨tame, none, rfl⟩
    · exact ⟨removePool_tame tame _, rfl, rfl⟩
  rcases closed with ⟨tame, noActions, pool⟩
  have pool' := pool ▸ discreet.pool
  have noneActions : forall actions, desk.closeActions.actions = some actions ->
      actions.pool.Within (rules.licence True) := by
    intro actions present
    cases noActions.symm.trans present
  rw [Desk.openActions]
  cases access.connector with
  | error e => exact ⟨tame, pool', noneActions⟩
  | ok connector =>
      rcases start_within rules True context connector (access.pinned scope)
        desk.closeActions.world
        with ⟨opened, within⟩
      simp only
      generalize Pool.start context connector (access.pinned scope) desk.closeActions.world =
        answer at opened within ⊢
      rcases answer with ⟨e | pool, world⟩
      · exact ⟨opened.tame tame, pool', noneActions⟩
      · refine ⟨opened.tame tame, pool', ?_⟩
        rintro other ⟨⟩
        exact within pool rfl

theorem withPool (discreet : Discreet rules (rules.licence True).shut desk)
    (use : Pool -> World Server Session -> Except Error Reply × World Server Session)
    (tame : forall pool w, pool.Within (rules.licence True) -> Tame (rules.licence True) w ->
      Tame (rules.licence True) (use pool w).2) :
    Discreet rules (rules.licence True) (desk.withPool use).2 := by
  rw [Desk.withPool]
  cases found : desk.pool? with
  | none => exact discreet.same
  | some pool => exact discreet.keep (tame pool desk.world (discreet.within found)) rfl rfl

theorem carryOut_tame {actions : Actions} (within : actions.pool.Within (rules.licence True))
    (tame : Tame (rules.licence True) w) (context : Context) (plan : Plan) :
    Tame (rules.licence True) (actions.carryOut context w plan).2 := by
  cases plan with
  | pooled sql format => exact Pool.query_tame within True.intro tame context sql
  | read scope sql format =>
      have works : Transaction.Body.KeepsTo (rules.licence True) Anywhere
          (fun tx w => tx.queryText context sql format w) :=
        fun tx w keeps => Transaction.query_progress (rules.licence True) keeps context sql w
      exact (Transaction.beginReadOnly_progress _ (anywhere _) works).tame tame
  | write scope sql report =>
      have works : Transaction.Body.KeepsTo (rules.licence True) Anywhere
          (fun tx w => tx.execute context sql w) :=
        fun tx w keeps =>
          Transaction.executeAs_progress (rules.licence True) keeps context "exec" sql w
      exact (Transaction.beginWrite_progress _ (anywhere _) works).tame tame

theorem act (discreet : Discreet rules (rules.licence True).shut desk) (context : Context)
    (action : Action) (arguments : Json) :
    Discreet rules (rules.licence True) (desk.act context action arguments).2 := by
  rw [Desk.act]
  cases present : desk.actions with
  | none => exact discreet.same
  | some actions =>
      cases Arguments.ofJson arguments with
      | error e => exact discreet.same
      | ok given =>
          simp only [Actions.perform]
          cases action.plan actions.classify given with
          | error e => exact discreet.keep (fun tame => tame) rfl present.symm
          | ok plan =>
              exact discreet.keep
                (fun tame => carryOut_tame (discreet.actions actions present) tame context plan)
                rfl present.symm

/-! ## Any request, and runs -/

theorem answer (discreet : Discreet rules (rules.licence True).shut desk) (request : Request) :
    Discreet rules (rules.licence True) (desk.answer request).2 := by
  have calm : forall {w : World Server Session}, w.errands = desk.world.errands ->
      w.now = desk.world.now -> Tame (rules.licence True) desk.world ->
      Tame (rules.licence True) w := by
    intro w errands now tame
    exact ⟨errands ▸ tame.ordered, errands ▸ tame.spoken, errands ▸ now ▸ tame.prompt⟩
  cases request with
  | newContext name time share =>
      cases share with
      | none => exact discreet.keep (calm rfl rfl) rfl rfl
      | some other => exact discreet.keep (calm rfl rfl) rfl rfl
  | cleanupContext name => exact discreet.keep (calm rfl rfl) rfl rfl
  | cancel name =>
      rw [Desk.answer, Desk.cancel]
      split
      · exact discreet.same
      · exact discreet.keep (calm rfl rfl) rfl rfl
  | cancelAfter name time =>
      rw [Desk.answer, Desk.cancelAfter]
      split
      · exact discreet.same
      · exact discreet.keep (fun tame => tame.spawn (by rintro _ ⟨⟩) (by rintro ⟨⟩)) rfl rfl
  | contextState name => exact discreet.same
  | work name operation time outcome =>
      have waited : Progress (rules.licence True) Anywhere desk.world
          (desk.world.await (desk.context name) operation time).2 :=
        await_progress _ _ (desk.context name) operation time
      rw [Desk.answer, Desk.work]
      generalize desk.world.await (desk.context name) operation time = answer at waited ⊢
      rcases answer with ⟨e | _, world⟩
      · exact discreet.keep waited.tame rfl rfl
      · exact discreet.keep waited.tame rfl rfl
  | advance time => exact discreet.keep (advance_passage time).tame rfl rfl
  | begin name tx access scope => exact discreet.begin (desk.context name) tx access scope
  | command name tx command => exact discreet.command (desk.context name) tx command
  | drop tx => exact discreet.drop true tx
  | forget tx => exact discreet.drop false tx
  | finish name tx outcome => exact discreet.finish (desk.context name) tx outcome
  | transact name access scope keep commands =>
      exact discreet.transact (desk.context name) access scope keep commands
  | openPool name access scope => exact discreet.openPool (desk.context name) access scope
  | openActions name access scope classify =>
      exact discreet.openActions (desk.context name) access scope classify
  | poolExecute name sql =>
      exact discreet.withPool _ fun pool w within tame =>
        Pool.execute_tame within True.intro tame _ sql
  | poolQuery name sql format =>
      exact discreet.withPool _ fun pool w within tame =>
        Pool.query_tame within True.intro tame _ sql
  | poolRows name sql =>
      exact discreet.withPool _ fun pool w within tame =>
        Pool.query_tame within True.intro tame _ sql
  | poolTarget => exact discreet.withPool _ fun pool w within tame => tame
  | act name action arguments => exact discreet.act (desk.context name) action arguments

theorem perform (discreet : Discreet rules (rules.licence True).shut desk) (request : Request) :
    Discreet rules (rules.licence True).shut (desk.perform request).2 :=
  have answered := discreet.answer request
  ⟨settle_tame answered.tame, answered.pool, answered.actions⟩

/-- Requests lead from a discreet desk to a discreet desk. -/
theorem run (discreet : Discreet rules (rules.licence True).shut desk) (requests : List Request) :
    Discreet rules (rules.licence True).shut (desk.run requests) := by
  induction requests generalizing desk with
  | nil => exact discreet
  | cons request rest inductionHypothesis => exact inductionHypothesis (discreet.perform request)

end Discreet

theorem discreet_run (rules : Rules) (requests : List Request) :
    Discreet rules (rules.licence True).shut ((ofRules rules).run requests) := by
  have sound := sound_ofRules rules True
  have start : Discreet rules (rules.licence True).shut (ofRules rules) :=
    ⟨sound.tame, sound.pool, sound.actions⟩
  exact start.run requests

end Desk
end ScopedSql
