import ScopedSql.Desk.Perform
import ScopedSql.Proofs.Config.Override
import ScopedSql.Proofs.Pool.Custody
import ScopedSql.Proofs.Scope
import ScopedSql.Scripted.Server

namespace ScopedSql

/-!
# Pools for one connection text

Two configurations that differ only in settings for which a connection text
stands open pools with the same connector.  The place of the pooled sessions is
another matter: a pool is put on the database of its configuration even where a
connection text is given.  So the pools agree as long as the same database is
set, and the database is the only setting on which they depend.
-/

namespace Scope

variable {scope other : Scope}

theorem useStatement_inj {name another : String}
    (accepted : Name.Kind.database.accepts name.toList = true)
    (alsoAccepted : Name.Kind.database.accepts another.toList = true)
    (same : useStatement another = useStatement name) : another = name := by
  have reads : Scripted.Control.read (useStatement another) = .use another :=
    Scripted.read_use alsoAccepted
  rw [same, useStatement, Scripted.read_use accepted] at reads
  cases reads
  rfl

/-- The statements of two scopes on one branch are the same only if the databases are. -/
theorem positions_eq_iff (sound : scope.fault? = none) (otherSound : other.fault? = none)
    (branch : other.branch? = scope.branch?) :
    other.positions = scope.positions ↔ other.database? = scope.database? := by
  rw [positions, positions, branch, List.append_cancel_right_eq]
  cases database : scope.database? with
  | none => cases otherDatabase : other.database? <;> simp
  | some name =>
      cases otherDatabase : other.database? with
      | none => simp
      | some another =>
          have accepted := (fault?_eq_none_iff.mp sound).database name database
          have alsoAccepted := (fault?_eq_none_iff.mp otherSound).database another otherDatabase
          simp only [Option.map_some, Option.toList_some, List.cons.injEq, and_true,
            Option.some.injEq]
          exact ⟨useStatement_inj accepted alsoAccepted, fun same => by rw [same]⟩

end Scope

namespace Pool

variable {σ κ : Type} [Backend σ κ] {scope other : Scope}

/-- Whether a pool starts and what it does to the world is the same on every scope without a
fault. -/
theorem start_elsewhere (context : Context) (connector : Connector) (w : World σ κ)
    (sound : scope.fault? = none) (otherSound : other.fault? = none) :
    start context connector other w =
      ((start context connector scope w).1.map
          (fun pool => { pool with pinned := other.positions }),
        (start context connector scope w).2) := by
  rw [start, start, scope.statements_eq, other.statements_eq, sound, otherSound]
  simp only
  split
  · rfl
  · split <;> rfl

end Pool

namespace Desk

variable {σ κ : Type}

theorem closePool_pool (desk : Desk σ κ) : desk.closePool.pool = none := by
  rw [closePool]
  split
  · assumption
  · rfl

theorem closeActions_actions (desk : Desk σ κ) : desk.closeActions.actions = none := by
  rw [closeActions]
  split
  · assumption
  · rfl

variable [Backend σ κ] {first second : Config}

/-- Open a pool with a base to fall back on, and put it in its place. -/
def opening (base : Desk σ κ) (place : Connector -> Pool -> World σ κ -> Desk σ κ)
    (context : Context) (scope : Scope) (access : Access) : Except Error Reply × Desk σ κ :=
  match access.connector with
  | .error e => (.error e, base)
  | .ok connector =>
    match Pool.start context connector (access.pinned scope) base.world with
    | (.error e, world) => (.error e, { base with world })
    | (.ok pool, world) => (.ok .done, place connector pool world)

/-- How the openings with two configurations compare. -/
structure SameOpening (first second : Config)
    (opening : Access -> Except Error Reply × Desk σ κ) (pool? : Desk σ κ -> Option Pool) :
    Prop where
  /-- With the same database there is no difference at all. -/
  same : second.database = first.database -> opening (.from second) = opening (.from first)
  /-- What is wrong with the connection is wrong with both. -/
  unreachable : forall e, Connector.ofConfig first = .error e ->
    (opening (.from first)).1 = .error e ∧ opening (.from second) = opening (.from first)
  /-- Where both databases can be selected, the server sees the same and the outcome is the
  same. -/
  outcome : first.pinnedScope.fault? = none -> second.pinnedScope.fault? = none ->
    (opening (.from second)).1 = (opening (.from first)).1 ∧
      (opening (.from second)).2.world = (opening (.from first)).2.world
  /-- The sessions of the two pools are opened alike.  They are put on one place if the databases
  are the same, and only then. -/
  pools : forall pool other, pool? (opening (.from first)).2 = some pool ->
    pool? (opening (.from second)).2 = some other ->
      other.number = pool.number ∧ other.connector = pool.connector ∧
        (other.pinned = pool.pinned ↔ second.database = first.database)

section

variable {base : Desk σ κ} {place : Connector -> Pool -> World σ κ -> Desk σ κ}
  {pool? : Desk σ κ -> Option Pool} {context : Context} {scope : Scope}

/-- A pool that is there after an opening was started by it. -/
theorem started_of_opening {access : Access} {pool : Pool}
    (placed : forall connector pool world, pool? (place connector pool world) = some pool)
    (empty : forall world, pool? { base with world } = none)
    (there : pool? (opening base place context scope access).2 = some pool) :
    exists connector world, access.connector = .ok connector ∧
      Pool.start context connector (access.pinned scope) base.world = (.ok pool, world) := by
  rw [opening] at there
  cases reached : access.connector with
  | error e =>
      rw [reached] at there
      exact nomatch (empty base.world).symm.trans there
  | ok connector =>
      rw [reached] at there
      simp only at there
      cases started : Pool.start context connector (access.pinned scope) base.world with
      | mk result world =>
          rw [started] at there
          cases result with
          | error e => exact nomatch (empty world).symm.trans there
          | ok opened =>
              cases (placed connector opened world).symm.trans there
              exact ⟨connector, world, rfl, started⟩

theorem sameOpening (reworded : Config.Reworded first second)
    (keeps : forall connector pool world, (place connector pool world).world = world)
    (placed : forall connector pool world, pool? (place connector pool world) = some pool)
    (empty : forall world, pool? { base with world } = none) :
    SameOpening first second (opening base place context scope) pool? := by
  have connectors := reworded.sameConnection.connector
  have branch : second.pinnedScope.branch? = first.pinnedScope.branch? := reworded.pinnedBranch
  constructor
  case same =>
    intro database
    have place : second.pinnedScope = first.pinnedScope := by
      rw [Config.pinnedScope, Config.pinnedScope, database, reworded.pinnedBranch]
    rw [opening, opening, Access.connector, Access.connector, connectors, Access.pinned,
      Access.pinned, place]
  case unreachable =>
    intro e failed
    rw [opening, opening, Access.connector, Access.connector, connectors, failed]
    exact ⟨rfl, rfl⟩
  case outcome =>
    intro sound otherSound
    rw [opening, opening, Access.connector, Access.connector, connectors]
    cases Connector.ofConfig first with
    | error e => exact ⟨rfl, rfl⟩
    | ok connector =>
        simp only [Access.pinned]
        rw [Pool.start_elsewhere context connector base.world sound otherSound]
        rcases Pool.start context connector first.pinnedScope base.world with ⟨e | pool, world⟩
        · exact ⟨rfl, rfl⟩
        · exact ⟨rfl, (keeps _ _ _).trans (keeps _ _ _).symm⟩
  case pools =>
    intro pool other there otherThere
    rcases started_of_opening placed empty there with ⟨connector, world, reached, started⟩
    rcases started_of_opening placed empty otherThere
      with ⟨otherConnector, otherWorld, otherReached, otherStarted⟩
    have one : otherConnector = connector := by
      rw [Access.connector, connectors] at otherReached
      exact Except.ok.inj (otherReached.symm.trans reached)
    subst one
    simp only [Access.pinned] at started otherStarted
    rcases Scope.statements_eq_ok_iff.mp (Pool.statements_of_start started) with ⟨sound, pinned⟩
    have otherSound :=
      (Scope.statements_eq_ok_iff.mp (Pool.statements_of_start otherStarted)).1
    rw [Pool.start_elsewhere context otherConnector base.world sound otherSound, started]
      at otherStarted
    cases otherStarted
    refine ⟨rfl, rfl, ?_⟩
    rw [pinned]
    exact Scope.positions_eq_iff sound otherSound branch

end

/-- Two configurations with one connection text make the same connections, and they open the same
pools, except that a pool is put on the database of its own configuration. -/
theorem same_but_database_of_reworded (reworded : Config.Reworded first second)
    (desk : Desk σ κ) (context : Context) (scope : Scope) (classify : Sql.Classifier) :
    Config.SameConnection first second ∧
      SameOpening first second (fun access => desk.openPool context access scope) Desk.pool ∧
      SameOpening first second (fun access => desk.openActions context access scope classify)
        (fun after => after.actions.map Actions.pool) := by
  refine ⟨reworded.sameConnection, ?_, ?_⟩
  · have opened : SameOpening first second (opening desk.closePool
        (fun _ pool world => { desk.closePool with world, pool := some pool }) context scope)
        Desk.pool :=
      sameOpening reworded (fun _ _ _ => rfl) (fun _ _ _ => rfl) (fun _ => closePool_pool desk)
    exact opened
  · have opened : SameOpening first second (opening desk.closeActions
        (fun connector pool world =>
          { desk.closeActions with world, actions := some { connector, pool, classify } })
        context scope) (fun after => after.actions.map Actions.pool) :=
      sameOpening reworded (fun _ _ _ => rfl) (fun _ _ _ => rfl) (fun _ => by
        rw [closeActions_actions desk]
        rfl)
    exact opened

/-- The configuration of a text and the ones that add another host, a password and a database. -/
theorem same_but_database_of_shop :
    let first := { Config.standard with dsn := some "root@db/shop" }
    let second := { first with
      host := "elsewhere", password := "secret", databaseName := some "other" }
    let desk : Desk Scripted.Server Scripted.Session := .start .standard
    first.Reworded second ∧
      SameOpening first second
        (fun access => desk.openPool (desk.context mainContext) access .plain) Desk.pool := by
  intro first second desk
  have reworded : first.Reworded second := ⟨by decide +kernel, rfl⟩
  exact ⟨reworded, (same_but_database_of_reworded reworded desk (desk.context mainContext) .plain
    Sql.Classifier.byKeyword).2.1⟩

/-- A database that is no name is refused although a text is given, and one that is a name brings a
statement with it. -/
theorem database_shows_beside_text :
    let first := { Config.standard with dsn := some "root@db/shop" }
    let second := { first with databaseName := some "bad name!" }
    let third := { first with databaseName := some "other" }
    let desk : Desk Scripted.Server Scripted.Session := (start .standard).cancel mainContext
    let opened := fun config =>
      (desk.openPool (desk.context mainContext) (.from config) .plain).1
    (first.Reworded second ∧ first.Reworded third) ∧
      opened first = .error (.cancelled "connect") ∧
      opened second = .error (.invalidName .database "bad name!") ∧
      first.pinnedScope.statements = .ok [] ∧
      third.pinnedScope.statements = .ok ["USE \x60other\x60;"] := by
  intro first second third desk opened
  have given : first.dsnOverride.isSome := by decide +kernel
  have reworded : first.Reworded second := ⟨given, rfl⟩
  have readable : (Connector.ofConfig first).isOk = true := by decide +kernel
  cases reached : Connector.ofConfig first with
  | error e =>
      rw [reached] at readable
      cases readable
  | ok connector =>
      have alsoReached := reworded.sameConnection.connector.trans reached
      refine ⟨⟨reworded, given, rfl⟩, ?_, ?_, rfl, rfl⟩
      · simp only [opened, openPool, Access.connector, reached]
        rfl
      · simp only [opened, openPool, Access.connector, alsoReached]
        rfl

end Desk
end ScopedSql
