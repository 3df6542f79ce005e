import ScopedSql.Desk.Description
import ScopedSql.Proofs.Config.Redaction
import ScopedSql.Proofs.Desk.Override
import ScopedSql.Wire.Server

namespace ScopedSql

/-!
# Secrets that do not show

A connector is named after what is shown of its configuration, and a pool keeps
the connector that it was started with.  So wherever the name of a connector or
the target of a pool is put out, two configurations that differ in their secrets
cannot be told apart.
-/

/-- A pool keeps the connector that it was started with. -/
theorem Pool.connector_of_start {σ κ : Type} [Backend σ κ] {context : Context}
    {connector : Connector} {scope : Scope} {pool : Pool} {w w' : World σ κ}
    (started : start context connector scope w = (.ok pool, w')) : pool.connector = connector := by
  rw [start] at started
  split at started
  · cases started
  · split at started
    · cases started
    · simp only at started
      split at started
      · cases started
      · cases started
        rfl

/-- A pool is described by its target alone. -/
theorem Pool.describe_of_name {pool other : Pool}
    (same : other.connector.name = pool.connector.name) : other.describe = pool.describe := by
  unfold describe
  rw [same]

namespace Desk

/-- A pool that a desk opened for a configuration, for single statements or for actions. -/
inductive Opens (σ : Type) {κ : Type} [Backend σ κ] (config : Config) (pool : Pool) : Prop
  | single (desk : Desk σ κ) (context : Context) (scope : Scope)
      (there : (desk.openPool context (.from config) scope).2.pool = some pool)
  | acting (desk : Desk σ κ) (context : Context) (scope : Scope) (classify : Sql.Classifier)
      (there : (desk.openActions context (.from config) scope classify).2.actions.map
        Actions.pool = some pool)

variable {σ κ : Type} [Backend σ κ] {config first second : Config} {pool : Pool}

/-- The target of a pool is what is shown of its configuration. -/
theorem name_of_opening {base : Desk σ κ} {place : Connector -> Pool -> World σ κ -> Desk σ κ}
    {context : Context} {scope : Scope} (pool? : Desk σ κ -> Option Pool)
    (placed : forall connector pool world, pool? (place connector pool world) = some pool)
    (empty : forall world, pool? { base with world } = none)
    (there : pool? (opening base place context scope (.from config)).2 = some pool) :
    pool.connector.name = config.redactedText := by
  rcases started_of_opening placed empty there with ⟨connector, world, reached, started⟩
  rw [Pool.connector_of_start started]
  exact Config.name_of_ofConfig reached

theorem Opens.name (opens : Opens σ config pool) :
    pool.connector.name = config.redactedText := by
  cases opens with
  | single desk context scope there =>
      have opened : (opening desk.closePool
          (fun _ pool world => { desk.closePool with world, pool := some pool }) context scope
          (.from config)).2.pool = some pool := there
      refine name_of_opening Desk.pool ?_ ?_ opened
      · intro _ _ _
        rfl
      · intro _
        exact closePool_pool desk
  | acting desk context scope classify there =>
      have opened : Option.map Actions.pool (opening desk.closeActions
          (fun connector pool world =>
            { desk.closeActions with world, actions := some { connector, pool, classify } })
          context scope (.from config)).2.actions = some pool := there
      refine name_of_opening (fun after => after.actions.map Actions.pool) ?_ ?_ opened
      · intro _ _ _
        rfl
      · intro _
        rw [closeActions_actions desk]
        rfl

/-- What is put out for logs is the same with the two configurations, and only secrets are
missing there. -/
structure SameShown (σ : Type) {κ : Type} [Backend σ κ] (first second : Config) : Prop where
  masks : first.Masks first.redactedText
  text : second.redactedText = first.redactedText
  connector : forall connector other, Connector.ofConfig first = .ok connector ->
    Connector.ofConfig second = .ok other -> other.name = connector.name
  target : forall pool other, Opens σ first pool -> Opens σ second other ->
    other.connector.name = pool.connector.name
  description : forall pool other, Opens σ first pool -> Opens σ second other ->
    other.describe = pool.describe
  /-- Whoever holds such a pool answers with its target. -/
  answer : forall (desk others : Desk σ κ) (pool other : Pool), Opens σ first pool ->
    Opens σ second other -> desk.pool? = some pool -> others.pool? = some other ->
      (others.answer .poolTarget).1 = (desk.answer .poolTarget).1

theorem target_of_pool {desk : Desk σ κ} (there : desk.pool? = some pool) :
    (desk.answer .poolTarget).1 = .ok (.text pool.connector.name) := by
  simp only [answer, withPool, there]

/-- Configurations that differ in their secrets cannot be told apart by what is put out for logs. -/
theorem sameShown_of_secrets (differ : first.DifferInSecrets second) :
    SameShown σ first second := by
  have text := differ.redactedText
  have target : forall pool other, Opens σ first pool -> Opens σ second other ->
      other.connector.name = pool.connector.name := by
    intro pool other opens otherOpens
    rw [opens.name, otherOpens.name, text]
  exact {
    masks := differ.masks
    text
    connector := by
      intro connector other made otherMade
      rw [Config.name_of_ofConfig made, Config.name_of_ofConfig otherMade, text]
    target
    description := by
      intro pool other opens otherOpens
      exact Pool.describe_of_name (target pool other opens otherOpens)
    answer := by
      intro desk others pool other opens otherOpens there otherThere
      rw [target_of_pool there, target_of_pool otherThere, target pool other opens otherOpens] }

/-- With `@` in user, password and query, and with the scheme written out or not, one server is told
of another user, and nothing of it shows. -/
theorem sameShown_of_signs_everywhere :
    let plain := "root:p@ss@db:3307/shop?x=a@b"
    let address := "mysql://me@home:w@rd@db:3307/shop?x=a@b"
    let first := { Config.standard with dsn := some plain }
    let second := { Config.standard with dsn := some address }
    let third := Config.forServer "db" "root" 3306
    let fourth := { third with password := "s@cret" }
    let desk : Desk Wire.Server Wire.Session :=
      .start (.withRules { rules := [], connectFault := none, pingFault := none })
    let opened := fun config => (desk.openPool (desk.context mainContext) (.from config) .plain).2
    (first.DifferInSecrets second ∧ third.DifferInSecrets fourth) ∧
      (forall config, config ∈ [first, second, third, fourth] -> (opened config).pool.isSome) ∧
      (opened first).world.server ≠ (opened second).world.server ∧
      (forall options others, Config.readDsn plain = .ok options ->
        Config.readDsn address = .ok others -> options.SameButCredentials others) ∧
      SameShown Wire.Server first second ∧ SameShown Wire.Server third fourth ∧
      first.redactedText = "***@b" ∧ fourth.redactedText = "root:***@db:3306/" := by
  intro plain address first second third fourth desk opened
  have parts : Config.Credentialed plain .bare "root:p@ss".toList "db:3307/shop?x=a@b".toList :=
    ⟨by decide +kernel, by simp [Url.endsAuthority], by decide +kernel⟩
  have otherParts : Config.Credentialed address (.scheme Url.serverScheme) "me@home:w@rd".toList
      "db:3307/shop?x=a@b".toList :=
    ⟨by decide +kernel, by simp [Url.endsAuthority], by decide +kernel⟩
  have unnamed : Config.Lead.bare.MeansServer plain :=
    show Config.namesScheme plain = false by decide +kernel
  have addresses : first.DifferInSecrets second :=
    .credentials (by decide +kernel) (by decide +kernel) parts otherParts
  have passwords : third.DifferInSecrets fourth := .password rfl rfl
  have place : forall options others, Config.readDsn plain = .ok options ->
      Config.readDsn address = .ok others -> options.SameButCredentials others :=
    fun _ _ => Config.sameButCredentials_of_credentialed parts otherParts unnamed rfl
  exact ⟨⟨addresses, passwords⟩, by decide +kernel, by decide +kernel, place,
    sameShown_of_secrets addresses, sameShown_of_secrets passwords, by decide +kernel,
    by decide +kernel⟩

end Desk
end ScopedSql
