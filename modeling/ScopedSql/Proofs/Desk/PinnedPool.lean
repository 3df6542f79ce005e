import ScopedSql.Proofs.Desk.Discreet
import ScopedSql.Proofs.Pool.Place

namespace ScopedSql

open Scripted World

/-!
# A pinned pool and its callers

Callers use a pool one after the other, and each may leave its session anywhere.
Before the next statement the pool puts the session back on its scope.  That
always restores the branch, and it restores the database if the scope names one.
A pool that is pinned to a branch only stays where new sessions stand as long as
no caller selects a database; once one does, the next caller works there.
-/

variable {scope : Scope} {licence : Licence} {rules : Rules} {w w' : World Server Session}
  {desk : Desk Server Session} {pool? : Option Pool} {still : Prop} {request : Request}

/-! ## Requests to a pool -/

/-- The statement that a request gives to the pool. -/
def Request.pooled? : Request -> Option String
  | .poolExecute _ sql => some sql
  | .poolQuery _ sql _ => some sql
  | .poolRows _ sql => some sql
  | _ => none

/-- The request gives no statement to the pool that selects a database. -/
def Request.SelectsNone (request : Request) : Prop :=
  forall sql, request.pooled? = some sql -> forall name, Control.read sql ≠ .use name

/-- Is the request one on contexts, on time or on the pool that there is? -/
def Request.isFacade : Request -> Bool
  | .newContext _ _ _ | .cleanupContext _ | .cancel _ | .cancelAfter _ _ | .contextState _
  | .work _ _ _ _ | .advance _ | .poolExecute _ _ | .poolQuery _ _ _ | .poolRows _ _
  | .poolTarget => true
  | _ => false

/-- To put sessions on a scope. -/
def Scope.placing (scope : Scope) : Licence := ⟨fun sql => sql ∈ scope.positions, True⟩

theorem Scope.placing_selectsNone (valid : scope.Valid) (nameless : scope.database? = none) :
    forall sql, scope.placing.speaks sql -> forall name, Control.read sql ≠ .use name := by
  intro sql member name selects
  rcases read_of_mem_positions (fault?_eq_none_iff.mpr valid) member
    with ⟨other, given, _⟩ | ⟨other, _, read⟩
  · cases nameless.symm.trans given
  · cases read.symm.trans selects

namespace Pool

theorem Served.tame {pool : Pool} {sql : String} {α : Type}
    {answer : Except Error α × World Server Session}
    (served : Served licence scope pool sql w answer) (tame : Tame licence w) :
    Tame licence answer.2 := by
  cases served with
  | unrun unserved passed => exact passed.tame tame
  | @ran result session w' served passed stands =>
      have ready := passed.tame tame
      have said : Tame licence (w'.say sql session) := ⟨ready.ordered, ready.spoken, ready.prompt⟩
      exact putBack_tame said pool.number _

/-- A statement that selects no database leaves the sessions without one. -/
theorem Served.unplaced {pool : Pool} {sql : String} {α : Type}
    {answer : Except Error α × World Server Session}
    (served : Served licence scope pool sql w answer) (tame : Tame licence w)
    (selectsNone : forall sql, licence.speaks sql -> forall name, Control.read sql ≠ .use name)
    (own : forall name, Control.read sql ≠ .use name) (unplaced : (w.circulation []).Unplaced) :
    (answer.2.circulation []).Unplaced := by
  cases served with
  | unrun unserved passed => exact (passed.conduct tame).unplaced selectsNone unplaced
  | @ran result session w' served passed stands =>
      have ready := (passed.conduct tame).unplaced selectsNone unplaced
      -- The caller is one more who may speak, and says nothing that selects a database.
      let wider : Licence := ⟨fun other => forall name, Control.read other ≠ .use name, True⟩
      have said : Passage wider [session] w'
          [] ((w'.say sql session).putBack pool.number (w'.server.rules.move session sql)) :=
        (Passage.say own).trans (.putBack pool.number)
      have spoken : Tame wider w' :=
        (passed.tame tame).within ⟨selectsNone, fun _ => True.intro⟩
      exact (said.conduct spoken).unplaced (fun _ speaks => speaks) ready

end Pool

namespace Desk

/-- A pool that is opened was started on the scope to which it is pinned. -/
theorem started_of_openPool {opener : String} {access : Access} {pin : Scope}
    (opened : (desk.perform (.openPool opener access pin)).1.isOk = true) :
    exists connector pool world,
      Pool.start (desk.context opener) connector (access.pinned pin) desk.closePool.world =
        (.ok pool, world) ∧
      (desk.perform (.openPool opener access pin)).2 =
        Desk.settle { desk.closePool with world, pool := some pool } := by
  simp only [Desk.perform, Desk.answer, Desk.openPool] at opened ⊢
  cases reached : access.connector with
  | error e =>
      rw [reached] at opened
      cases opened
  | ok connector =>
      rw [reached] at opened
      simp only at opened ⊢
      refine ⟨connector, ?_⟩
      generalize Pool.start (desk.context opener) connector (access.pinned pin)
        desk.closePool.world = answer at opened ⊢
      rcases answer with ⟨e | pool, world⟩
      · cases opened
      · exact ⟨pool, world, rfl, rfl⟩

/-- What is true while callers use nothing but a pool on a scope, before it is opened and after.
If it is still, no session has a database selected. -/
structure Facade (scope : Scope) (still : Prop) (pool? : Option Pool)
    (desk : Desk Server Session) : Prop where
  pool : desk.pool = pool?
  actions : desk.actions = none
  pinned : forall pool, pool? = some pool -> pool.pinned = scope.positions
  tame : Tame scope.placing desk.world
  unplaced : still -> (desk.world.circulation []).Unplaced

namespace Facade

theorem pool_eq (facade : Facade scope still pool? desk) : desk.pool? = pool? := by
  rw [Desk.pool?, facade.pool, facade.actions, Option.map_none, Option.or_none]

/-- Requests that give no statement to a pool only let the others have their way. -/
theorem calm (facade : Facade scope still pool? desk) (isFacade : request.isFacade = true)
    (none : request.pooled? = none ∨ pool? = none) (licence : Licence) :
    Passage licence [] desk.world [] (desk.answer request).2.world := by
  have untouched : forall {w : World Server Session}, w.server = desk.world.server ->
      w.errands = desk.world.errands -> w.idle = desk.world.idle -> w.now = desk.world.now ->
      Passage licence [] desk.world [] w := by
    intro w server errands idle now
    exact .calm server errands (idle ▸ (List.Perm.refl _).subperm) (now ▸ Nat.le_refl _)
  have unused : forall use : Pool -> World Server Session -> Except Error Reply × World _ _,
      pool? = Option.none -> Passage licence [] desk.world [] (desk.withPool use).2.world := by
    intro use missing
    rw [withPool, facade.pool_eq, missing]
    exact .refl
  cases request with
  | newContext name time share => cases share <;> exact untouched rfl rfl rfl rfl
  | cleanupContext name => exact untouched rfl rfl rfl rfl
  | cancel name =>
      rw [Desk.answer, Desk.cancel]
      split
      · exact .refl
      · exact untouched rfl rfl rfl rfl
  | cancelAfter name time =>
      rw [Desk.answer, Desk.cancelAfter]
      split
      · exact .refl
      · exact .spawn rfl rfl (by rintro _ ⟨⟩) (by rintro ⟨⟩)
  | contextState name => exact .refl
  | work name operation time outcome =>
      rcases await_cases licence desk.world (desk.context name) operation time
        with ⟨w', passed, waited | ⟨e, _, waited⟩⟩
      · rw [Desk.answer, Desk.work, waited]
        exact passed
      · rw [Desk.answer, Desk.work, waited]
        exact passed
  | advance time => exact advance_passage time
  | poolExecute name sql => exact unused _ (none.resolve_left (by rintro ⟨⟩))
  | poolQuery name sql format => exact unused _ (none.resolve_left (by rintro ⟨⟩))
  | poolRows name sql => exact unused _ (none.resolve_left (by rintro ⟨⟩))
  | poolTarget =>
      rw [Desk.answer, withPool]
      split <;> exact .refl
  | _ => cases isFacade

/-- No such request opens or closes a pool. -/
theorem keeps (desk : Desk Server Session) (isFacade : request.isFacade = true) :
    (desk.answer request).2.pool = desk.pool ∧ (desk.answer request).2.actions = desk.actions := by
  have used : forall use : Pool -> World Server Session -> Except Error Reply × World _ _,
      (desk.withPool use).2.pool = desk.pool ∧ (desk.withPool use).2.actions = desk.actions := by
    intro use
    rw [withPool]
    split <;> exact ⟨rfl, rfl⟩
  cases request with
  | newContext name time share => cases share <;> exact ⟨rfl, rfl⟩
  | cancel name =>
      rw [Desk.answer, Desk.cancel]
      split <;> exact ⟨rfl, rfl⟩
  | cancelAfter name time =>
      rw [Desk.answer, Desk.cancelAfter]
      split <;> exact ⟨rfl, rfl⟩
  | work name operation time outcome =>
      rw [Desk.answer, Desk.work]
      split <;> exact ⟨rfl, rfl⟩
  | poolExecute name sql => exact used _
  | poolQuery name sql format => exact used _
  | poolRows name sql => exact used _
  | poolTarget => exact used _
  | cleanupContext name => exact ⟨rfl, rfl⟩
  | contextState name => exact ⟨rfl, rfl⟩
  | advance time => exact ⟨rfl, rfl⟩
  | _ => cases isFacade

variable {pool : Pool} {sql : String}

/-- A statement that is given to the pool is run on its scope, or not at all. -/
theorem served (facade : Facade scope still (some pool) desk) (valid : scope.Valid)
    (named : scope.positions ≠ []) (given : request.pooled? = some sql) :
    pool.Served scope.placing scope sql desk.world
      ((desk.answer request).1, (desk.answer request).2.world) := by
  have same := facade.pinned pool rfl
  have within : pool.Within scope.placing := by
    intro statement member
    rw [same] at member
    exact member
  cases request with
  | poolExecute name text =>
      cases given
      rw [Desk.answer, withPool, facade.pool_eq]
      exact (Pool.execute_served within True.intro valid named same _ _).map _
  | poolQuery name text format =>
      cases given
      rw [Desk.answer, withPool, facade.pool_eq]
      exact (Pool.queryText_served within True.intro valid named same _ _ _).map _
  | poolRows name text =>
      cases given
      rw [Desk.answer, withPool, facade.pool_eq]
      exact (Pool.query_served within True.intro valid named same _ _).map _
  | _ => cases given

theorem settle (facade : Facade scope still pool? desk) (valid : scope.Valid)
    (nameless : still -> scope.database? = none) : Facade scope still pool? desk.settle where
  pool := facade.pool
  actions := facade.actions
  pinned := facade.pinned
  tame := settle_passage.tame facade.tame
  unplaced := fun isStill => (settle_passage.conduct facade.tame).unplaced
    (Scope.placing_selectsNone valid (nameless isStill)) (facade.unplaced isStill)

theorem perform (facade : Facade scope still pool? desk) (valid : scope.Valid)
    (named : scope.positions ≠ []) (nameless : still -> scope.database? = none)
    (isFacade : request.isFacade = true)
    (selectsNone : still -> pool?.isSome = true -> request.SelectsNone) :
    Facade scope still pool? (desk.perform request).2 := by
  rcases keeps desk isFacade with ⟨samePool, sameActions⟩
  have background := fun isStill : still =>
    Scope.placing_selectsNone valid (nameless isStill)
  have calmly : (request.pooled? = none ∨ pool? = none) ->
      Tame scope.placing (desk.answer request).2.world ∧
        (still -> ((desk.answer request).2.world.circulation []).Unplaced) := by
    intro none
    have passage := facade.calm isFacade none scope.placing
    exact ⟨passage.tame facade.tame, fun isStill =>
      (passage.conduct facade.tame).unplaced (background isStill) (facade.unplaced isStill)⟩
  have answered : Tame scope.placing (desk.answer request).2.world ∧
      (still -> ((desk.answer request).2.world.circulation []).Unplaced) := by
    cases given : request.pooled? with
    | none => exact calmly (Or.inl given)
    | some sql =>
        cases pool? with
        | none => exact calmly (Or.inr rfl)
        | some pool =>
            have served := facade.served valid named given
            exact ⟨served.tame facade.tame, fun isStill =>
              served.unplaced facade.tame (background isStill)
                (selectsNone isStill rfl sql given) (facade.unplaced isStill)⟩
  have after : Facade scope still pool? (desk.answer request).2 :=
    ⟨samePool.trans facade.pool, sameActions.trans facade.actions, facade.pinned, answered.1,
      answered.2⟩
  exact after.settle valid nameless

/-- Callers who use nothing but the pool leave everything so. -/
theorem run (facade : Facade scope still pool? desk) (valid : scope.Valid)
    (named : scope.positions ≠ []) (nameless : still -> scope.database? = none)
    {requests : List Request}
    (isFacade : forall request, request ∈ requests -> request.isFacade = true)
    (selectsNone : still -> pool?.isSome = true ->
      forall request, request ∈ requests -> request.SelectsNone) :
    Facade scope still pool? (desk.run requests) := by
  induction requests generalizing desk with
  | nil => exact facade
  | cons request rest inductionHypothesis =>
      have next := facade.perform valid named nameless (isFacade request List.mem_cons_self)
        fun isStill opened => selectsNone isStill opened request List.mem_cons_self
      exact inductionHypothesis next
        (fun other member => isFacade other (List.mem_cons_of_mem _ member))
        fun isStill opened other member =>
          selectsNone isStill opened other (List.mem_cons_of_mem _ member)

/-- A pool is opened. -/
theorem openPool {opener : String} {access : Access} {pin : Scope}
    (facade : Facade (access.pinned pin) still none desk)
    (nameless : still -> (access.pinned pin).database? = none)
    (opened : (desk.perform (.openPool opener access pin)).1.isOk = true) :
    exists pool, Facade (access.pinned pin) still (some pool)
      (desk.perform (.openPool opener access pin)).2 := by
  rcases started_of_openPool opened with ⟨connector, pool, world, started, after⟩
  have closed : desk.closePool = desk := by rw [closePool, facade.pool]
  rw [closed] at started after
  have enters : (access.pinned pin).placing.enters := True.intro
  rcases Pool.start_passage (w := desk.world) enters (desk.context opener) connector
    (access.pinned pin) with ⟨passage, pinned⟩
  rw [started] at passage pinned
  rcases pinned pool rfl with ⟨faultless, positions⟩
  have valid := Scope.fault?_eq_none_iff.mp faultless
  have answered : Facade (access.pinned pin) still (some pool)
      { desk with world, pool := some pool } :=
    { pool := rfl
      actions := facade.actions
      pinned := by
        rintro _ ⟨⟩
        exact positions
      tame := passage.tame facade.tame
      unplaced := fun isStill => (passage.conduct facade.tame).unplaced
        (Scope.placing_selectsNone valid (nameless isStill)) (facade.unplaced isStill) }
  refine ⟨pool, ?_⟩
  rw [after]
  exact answered.settle valid nameless

theorem ofRules (rules : Rules) (scope : Scope) (still : Prop) :
    Facade scope still none (Desk.ofRules rules) where
  pool := rfl
  actions := rfl
  pinned := fun _ impossible => nomatch impossible
  tame := ⟨List.Pairwise.nil, fun _ member => (nomatch member), fun _ member => nomatch member⟩
  unplaced := fun _ _ member => nomatch member

end Facade

/-- What a call of a pool adds to the log: what the pool and the background say and, if its caller
is served, one statement, which is noted on the branch of the scope, and on the database of the
scope if it names one or if no session has a database selected. -/
structure Repositioned (scope : Scope) (still served : Prop) (sql : String)
    (entries before own after entries' : List Entry) : Prop where
  all : entries' = entries ++ (before ++ own ++ after)
  others : forall entry, entry ∈ before ++ after ->
    entry.sql ∈ scope.positions ∨ entry.sql = "ROLLBACK"
  unserved : ¬ served -> own = []
  served : served -> exists entry, own = [entry] ∧ entry.sql = sql ∧
    entry.branch = scope.branch? ∧
    (scope.database? ≠ none ∨ still -> entry.database = scope.database?)

theorem Facade.repositioned {pool : Pool} {sql : String}
    (facade : Facade scope still (some pool) desk) (valid : scope.Valid)
    (named : scope.positions ≠ []) (nameless : still -> scope.database? = none)
    (given : request.pooled? = some sql) :
    exists before own after,
      Repositioned scope still (¬ Unserved (desk.perform request).1) sql
        desk.world.server.ledger.entries before own after
        (desk.perform request).2.world.server.ledger.entries := by
  have served := facade.served valid named given
  rcases ((settle_passage (w := (desk.answer request).2.world)).conduct
    (served.tame facade.tame)).entries with ⟨after, afterEq, afterSaid⟩
  have performed : (desk.perform request).1 = (desk.answer request).1 ∧
      (desk.perform request).2.world.server.ledger.entries =
        (desk.answer request).2.world.server.ledger.entries ++ after := ⟨rfl, afterEq⟩
  rw [performed.1, performed.2]
  generalize (desk.answer request).1 = result at served
  generalize (desk.answer request).2.world = w' at served
  cases served with
  | unrun unserved passed =>
      rcases (passed.conduct facade.tame).entries with ⟨before, beforeEq, beforeSaid⟩
      refine ⟨before, [], after, ?_, ?_, fun _ => rfl, fun served => absurd unserved served⟩
      · rw [List.append_nil, ← List.append_assoc]
        exact congrArg (fun early => early ++ after) beforeEq
      · exact fun entry member => (List.mem_append.mp member).elim (beforeSaid entry)
          (afterSaid entry)
  | @ran _ session w1 answered passed stands =>
      have conduct := passed.conduct facade.tame
      rcases conduct.entries with ⟨before, beforeEq, beforeSaid⟩
      refine ⟨before, [session.entry sql], after, ?_, ?_, fun unserved => absurd answered unserved,
        fun _ => ⟨session.entry sql, rfl, rfl, stands.branch, ?_⟩⟩
      · have said : ((w1.say sql session).putBack pool.number
            (w1.server.rules.move session sql)).server.ledger.entries =
              w1.server.ledger.entries ++ [session.entry sql] := by
          rw [World.putBack_server]
          rfl
        rw [said, ← List.append_assoc, ← List.append_assoc]
        exact congrArg (fun early => early ++ [session.entry sql] ++ after) beforeEq
      · exact fun entry member => (List.mem_append.mp member).elim (beforeSaid entry)
          (afterSaid entry)
      · rintro (placed | isStill)
        · exact stands.database placed
        · have unplaced := conduct.unplaced
            (Scope.placing_selectsNone valid (nameless isStill)) (facade.unplaced isStill)
          exact (unplaced session List.mem_cons_self).trans (nameless isStill).symm

/-- Each statement that is given to a pinned pool is logged on its scope, whatever was given to the
pool before, unless the scope names no database and an earlier statement selected one.  New sessions
stand on the scope as well once its statements were run on them. -/
theorem repositioned_of_pinned {rules : Rules} {earlier later : List Request} {opener : String}
    {access : Access} {pin : Scope} {request : Request} {sql : String}
    (isFacade : forall request, request ∈ earlier ++ later -> request.isFacade = true)
    (opened : (((Desk.ofRules rules).run earlier).perform (.openPool opener access pin)).1.isOk =
      true)
    (pinned : (access.pinned pin).database? ≠ none ∨ (access.pinned pin).branch? ≠ none)
    (given : request.pooled? = some sql) :
    let scope := access.pinned pin
    let desk := (Desk.ofRules rules).run (earlier ++ .openPool opener access pin :: later)
    let answer := desk.perform request
    (exists before own after, Repositioned scope
      (scope.database? = none ∧ forall request, request ∈ later -> request.SelectsNone)
      (¬ Unserved answer.1) sql desk.world.server.ledger.entries before own after
      answer.2.world.server.ledger.entries) ∧
    forall number, (forall sql, sql ∈ scope.positions -> rules.refusal? sql = none) ->
      (rules.replay (Session.fresh number) scope.positions).database = scope.database? ∧
        (rules.replay (Session.fresh number) scope.positions).branch = scope.branch? := by
  intro scope desk answer
  have valid : scope.Valid := by
    rcases started_of_openPool opened with ⟨connector, pool, world, started, _⟩
    have enters : Licence.full.enters := True.intro
    have within := (Pool.start_passage enters _ connector scope).2 pool (congrArg Prod.fst started)
    exact Scope.fault?_eq_none_iff.mp within.1
  have named : scope.positions ≠ [] := Scope.positions_ne_nil pinned
  have start := (Facade.ofRules rules scope (scope.database? = none ∧
    forall request, request ∈ later -> request.SelectsNone)).run valid named (fun still => still.1)
    (fun other member => isFacade other (List.mem_append_left _ member))
    (fun _ impossible => nomatch impossible)
  rcases start.openPool (fun still => still.1) opened with ⟨pool, lent⟩
  have facade := lent.run valid named (fun still => still.1)
    (fun other member => isFacade other (List.mem_append_right _ member))
    (fun still _ => still.2)
  have same : desk =
      (((Desk.ofRules rules).run earlier).perform (.openPool opener access pin)).2.run later :=
    run_append _ _ _
  rw [← same] at facade
  exact ⟨facade.repositioned valid named (fun still => still.1) given, fun number accepted =>
    Scope.place_of_fresh valid accepted number⟩

/-- A caller who leaves for another database and branch does not show to the next. -/
theorem repositioned_of_shop :
    let scope := Scope.onDatabaseBranch "shop" "release"
    let later : List Request :=
      [.poolExecute "main" "USE other", .poolExecute "main" "CALL DOLT_CHECKOUT('main')"]
    let desk := (Desk.ofRules Rules.standard).run
      ([] ++ .openPool "main" (.by Scripted.connector) scope :: later)
    let answer := desk.perform (.poolExecute "main" "SELECT 1")
    ¬ Unserved answer.1 ∧ exists entry, entry ∈ answer.2.world.server.ledger.entries ∧
      entry.sql = "SELECT 1" ∧ entry.branch = some "release" ∧ entry.database = some "shop" := by
  intro scope later desk answer
  have opened : (((Desk.ofRules Rules.standard).run []).perform
      (.openPool "main" (.by Scripted.connector) scope)).1.isOk = true := by decide +kernel
  have facade : forall request, request ∈ [] ++ later -> request.isFacade = true := by
    decide +kernel
  have placed := repositioned_of_pinned facade opened (Or.inl (Option.some_ne_none _))
    (rfl : (Request.poolExecute "main" "SELECT 1").pooled? = some "SELECT 1")
  have works : answer.1.isOk = true := by decide +kernel
  have isServed : ¬ Unserved answer.1 := by
    rintro ⟨e, failed, _⟩
    rw [failed] at works
    cases works
  rcases placed.1 with ⟨before, own, after, repositioned⟩
  rcases repositioned.served isServed with ⟨entry, single, text, branch, database⟩
  refine ⟨isServed, entry, ?_, text, branch, database (Or.inl (Option.some_ne_none _))⟩
  rw [repositioned.all, single]
  simp

/-- A pool that is pinned to a branch only shows the next caller the database that another caller
has selected, where a new session has none. -/
theorem database_shows_to_next_caller :
    let scope := Scope.onBranch "main"
    let desk := (Desk.ofRules Rules.standard).run
      [.openPool "main" (.by Scripted.connector) scope, .poolExecute "main" "USE other",
        .poolExecute "main" "SELECT 1"]
    desk.world.server.ledger.entries.getLast? = some ⟨2, some "other", some "main", "SELECT 1"⟩ ∧
      (Rules.standard.replay (Session.fresh 2) scope.positions).database = none := by
  decide +kernel

end Desk
end ScopedSql
