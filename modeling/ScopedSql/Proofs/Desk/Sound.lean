import ScopedSql.Proofs.Action.Plain
import ScopedSql.Proofs.Desk.Names
import ScopedSql.Proofs.Pool.Passage

namespace ScopedSql
namespace Desk

open Scripted World

/-!
# Every run keeps the books in order

A desk is sound if the books on the transactions that it keeps are in order, and
if every name stands for the transaction that last began under it.  The first
desk is sound, and every request leads from a sound desk to a sound desk.
-/

variable {origin : World Server Session} {rules : Rules} {plain : Prop} {licence : Licence}
  {desk desk' : Desk Server Session}
  {history events : History} {name : String} {tx tx' : Transaction Session}

/-- What is true of a desk after every run, with a licence for its background work and a world that
was there before. -/
structure Sound (origin : World Server Session) (rules : Rules) (plain : Prop)
    (licence : Licence) (desk : Desk Server Session) (history : History) : Prop where
  books : Books origin rules plain desk.sessions history desk.world
  tame : Tame licence desk.world
  names : (desk.transactions.map (fun kept => kept.1)).Nodup
  named : forall name tx, desk.transaction? name = some tx -> Named history name tx
  pool : forall pool, desk.pool = some pool -> pool.Within (rules.licence plain)
  actions : forall actions, desk.actions = some actions ->
    actions.pool.Within (rules.licence plain)

/-- Opening a pool uses a session for a moment, and a pool that is opened keeps to what callers may
say. -/
theorem start_within (rules : Rules) (plain : Prop) (context : Context) (connector : Connector)
    (scope : Scope) (w : World Server Session) :
    Passage (rules.licence plain) [] w [] (Pool.start context connector scope w).2 ∧
      forall pool, (Pool.start context connector scope w).1 = .ok pool ->
        pool.Within (rules.licence plain) := by
  have enters : (rules.licence plain).enters := True.intro
  rcases Pool.start_passage enters context connector scope with ⟨opened, pinned⟩
  refine ⟨opened, ?_⟩
  intro pool started sql member
  rcases pinned pool started with ⟨faultless, same⟩
  exact (rules.licence_fits plain).positions scope faultless sql (same ▸ member)

namespace Sound

/-- What leaves the transactions alone keeps the desk sound. -/
theorem keep (sound : Sound origin rules plain (rules.licence plain).shut desk history)
    (transactions : desk'.transactions = desk.transactions)
    (passage : Passage (rules.licence plain) [] desk.world [] desk'.world)
    (pool : forall pool, desk'.pool = some pool -> pool.Within (rules.licence plain))
    (actions : forall actions, desk'.actions = some actions ->
      actions.pool.Within (rules.licence plain)) :
    Sound origin rules plain (rules.licence plain) desk' history := by
  have tame := sound.tame.within (Licence.shut_within _)
  have sessions : desk'.sessions = desk.sessions := by
    rw [Desk.sessions, transactions]
    rfl
  have found : forall name, desk'.transaction? name = desk.transaction? name := by
    intro name
    rw [transaction?, transactions]
    rfl
  exact
    { books := sessions ▸ sound.books.pass (passage.conduct tame)
      tame := passage.tame tame
      names := transactions ▸ sound.names
      named := fun name tx kept => sound.named name tx ((found name).symm.trans kept)
      pool := pool
      actions := actions }

theorem standing (sound : Sound origin rules plain (rules.licence plain).shut desk history) :
    Standing origin rules plain desk.sessions history desk.world :=
  ⟨sound.books, sound.tame⟩

/-- The transaction of a name is in good standing, apart from the rest. -/
theorem standing_of_found (sound : Sound origin rules plain (rules.licence plain).shut desk history)
    (found : desk.transaction? name = some tx) :
    Standing origin rules plain (tx.sessions ++ (desk.withoutTransaction name).sessions) history
      desk.world :=
  sound.standing.perm (sessions_perm sound.names found).symm

/-- A transaction goes on under its name. -/
theorem goOn (sound : Sound origin rules plain (rules.licence plain).shut desk history)
    (found : desk.transaction? name = some tx) {world : World Server Session}
    (continues : tx.Continues tx' events)
    (standing : Standing origin rules plain
      (tx'.sessions ++ (desk.withoutTransaction name).sessions) (history ++ events) world)
    (nameless : events.Nameless) :
    Sound origin rules plain (rules.licence plain)
      (Desk.withTransaction { desk with world } name tx') (history ++ events) where
  books := standing.books
  tame := standing.tame.within (Licence.shut_within _)
  names := names_withTransaction sound.names name tx'
  named := by
    intro other kept found'
    rcases transaction?_withTransaction found' with ⟨rfl, rfl⟩ | ⟨differs, found'⟩
    · exact (sound.named other tx found).continues continues (nameless other)
    · exact (sound.named other kept found').continues (.refl kept events) (nameless other)
  pool := sound.pool
  actions := sound.actions

/-- The transactions that the desk keeps stay as they are. -/
theorem stay (sound : Sound origin rules plain (rules.licence plain).shut desk history)
    {world : World Server Session}
    (standing : Standing origin rules plain desk.sessions (history ++ events) world)
    (nameless : events.Nameless) :
    Sound origin rules plain (rules.licence plain) { desk with world } (history ++ events) where
  books := standing.books
  tame := standing.tame.within (Licence.shut_within _)
  names := sound.names
  named := by
    intro other kept found
    exact (sound.named other kept found).continues (.refl kept events) (nameless other)
  pool := sound.pool
  actions := sound.actions

/-- A transaction begins under a name, in the place of an older one. -/
theorem enter (sound : Sound origin rules plain (rules.licence plain).shut desk history)
    {world : World Server Session} {scope : Scope} {session : Session}
    (standing : Standing origin rules plain (session :: (desk.withoutTransaction name).sessions)
      (history ++ .began session.number (some name) scope :: events) world)
    (nameless : events.Nameless) :
    Sound origin rules plain (rules.licence plain)
      (Desk.withTransaction { desk with world } name ⟨scope, .live session⟩)
      (history ++ .began session.number (some name) scope :: events) where
  books := standing.books
  tame := standing.tame.within (Licence.shut_within _)
  names := names_withTransaction sound.names name _
  named := by
    intro other kept found
    rcases transaction?_withTransaction found with ⟨rfl, rfl⟩ | ⟨differs, found⟩
    · exact Named.begun scope session (nameless other)
    · have skipped : Event.begunAs? other (.began session.number (some name) scope) = none := by
        apply if_neg
        intro same
        exact differs (Option.some_inj.mp same).symm
      apply (sound.named other kept found).continues (.refl kept _)
      rw [List.filterMap_cons_none skipped]
      exact nameless other
  pool := sound.pool
  actions := sound.actions

/-- A transaction ceases to be open and is forgotten. -/
theorem forget (sound : Sound origin rules plain (rules.licence plain).shut desk history)
    {world : World Server Session}
    (standing : Standing origin rules plain (desk.withoutTransaction name).sessions
      (history ++ events) world)
    (nameless : events.Nameless) :
    Sound origin rules plain (rules.licence plain)
      (Desk.withoutTransaction { desk with world } name) (history ++ events) where
  books := standing.books
  tame := standing.tame.within (Licence.shut_within _)
  names := names_withoutTransaction sound.names name
  named := by
    intro other kept found'
    exact (sound.named other kept (transaction?_withoutTransaction found').2).continues
      (.refl kept events) (nameless other)
  pool := sound.pool
  actions := sound.actions

/-! ## Requests on transactions -/

theorem begin (sound : Sound origin rules plain (rules.licence plain).shut desk history)
    (context : Context) (name : String) (access : Access) (scope : Scope) :
    Sound origin rules plain (rules.licence plain) (desk.begin context name access scope).2
      (history ++
        match access.connector with
        | .error _ => []
        | .ok connector =>
          match Transaction.begin context connector scope desk.world with
          | (.error _, _) => []
          | (.ok new, _) =>
            new.beginning (some name) ++
              ((desk.transaction? name).map (fun old => old.leaving true)).getD []) := by
  rw [Desk.begin]
  cases access.connector with
  | error e =>
      rw [List.append_nil]
      exact sound.keep rfl .refl sound.pool sound.actions
  | ok connector =>
      have begun := sound.standing.begin context connector scope (some name)
      simp only
      generalize Transaction.begin context connector scope desk.world = answer at begun ⊢
      rcases answer with ⟨e | new, world⟩
      · rw [← List.append_nil history] at begun
        exact sound.stay begun fun _ => rfl
      · rcases begun with ⟨session, rfl, begun⟩
        cases found : desk.transaction? name with
        | none =>
            rw [← withoutTransaction_of_none found] at begun
            exact sound.enter begun fun _ => rfl
        | some old =>
            have apart := begun.perm
              (List.perm_middle.trans ((sessions_perm sound.names found).symm.cons session))
            have dropped := apart.drop true
            rw [List.append_assoc] at dropped
            exact sound.enter dropped (nameless_leaving old true)

theorem command (sound : Sound origin rules plain (rules.licence plain).shut desk history)
    (context : Context) (name : String) (command : Command)
    (plainly : plain -> forall sql, sql ∈ command.statement?.toList -> Plain sql) :
    Sound origin rules plain (rules.licence plain) (desk.command context name command).2
      (history ++ ((desk.transaction? name).map
        (fun tx => command.events context tx desk.world)).getD []) := by
  rw [Desk.command]
  cases found : desk.transaction? name with
  | none =>
      rw [Option.map_none, Option.getD_none, List.append_nil]
      exact sound.keep rfl .refl sound.pool sound.actions
  | some tx =>
      rcases (sound.standing_of_found found).command context command
        fun isPlain sql brings => plainly isPlain sql (Option.mem_toList.mpr brings)
        with ⟨continues, standing⟩
      exact sound.goOn found continues standing (nameless_command context tx desk.world command)

theorem drop (sound : Sound origin rules plain (rules.licence plain).shut desk history)
    (attended : Bool) (name : String) :
    Sound origin rules plain (rules.licence plain) (desk.drop attended name)
      (history ++ ((desk.transaction? name).map (fun old => old.leaving attended)).getD []) := by
  rw [Desk.drop]
  cases found : desk.transaction? name with
  | none =>
      rw [Option.map_none, Option.getD_none, List.append_nil]
      exact sound.keep rfl .refl sound.pool sound.actions
  | some tx =>
      exact sound.forget ((sound.standing_of_found found).drop attended)
        (nameless_leaving tx attended)

theorem finish (sound : Sound origin rules plain (rules.licence plain).shut desk history)
    (context : Context) (name : String) (outcome : Except String String) :
    Sound origin rules plain (rules.licence plain) (desk.finish context name outcome).2
      (history ++ ((desk.transaction? name).map (fun tx =>
        tx.change (tx.finish context (ofCaller outcome) desk.world).2.1)).getD []) := by
  rw [Desk.finish]
  cases found : desk.transaction? name with
  | none =>
      rw [Option.map_none, Option.getD_none, List.append_nil]
      exact sound.keep rfl .refl sound.pool sound.actions
  | some tx =>
      rcases (sound.standing_of_found found).finishAny context (ofCaller outcome) with ⟨_, standing⟩
      exact sound.forget standing (nameless_change _ _)

theorem transact (sound : Sound origin rules plain (rules.licence plain).shut desk history)
    (context : Context) (access : Access) (scope : Scope) (keep : Bool) (commands : List Command)
    (plainly : plain -> forall sql, sql ∈ commands.filterMap Command.statement? -> Plain sql) :
    Sound origin rules plain (rules.licence plain)
      (desk.transact context access scope keep commands).2
      (history ++
        match access.connector with
        | .error _ => []
        | .ok connector =>
          Transaction.wholeEvents context connector scope keep commands desk.world) := by
  rw [Desk.transact]
  cases access.connector with
  | error e =>
      rw [List.append_nil]
      exact sound.keep rfl .refl sound.pool sound.actions
  | ok connector =>
      have standing := sound.standing.whole context connector scope keep commands
        (Command.runAll context commands) (fun tx w => ⟨rfl, rfl⟩) plainly
      have nameless := nameless_whole context connector scope keep commands desk.world
      cases keep <;> exact sound.stay standing nameless

/-! ## Requests on pools and actions -/

theorem openPool (sound : Sound origin rules plain (rules.licence plain).shut desk history)
    (context : Context) (access : Access) (scope : Scope) :
    Sound origin rules plain (rules.licence plain) (desk.openPool context access scope).2
      history := by
  have closed : Passage (rules.licence plain) [] desk.world [] desk.closePool.world ∧
      desk.closePool.transactions = desk.transactions ∧ desk.closePool.pool = none ∧
        desk.closePool.actions = desk.actions := by
    rw [Desk.closePool]
    split
    · rename_i none
      exact ⟨.refl, rfl, none, rfl⟩
    · exact ⟨.removePool _, rfl, rfl, rfl⟩
  rcases closed with ⟨passage, transactions, noPool, actions⟩
  have sameActions : forall actions, desk.closePool.actions = some actions ->
      actions.pool.Within (rules.licence plain) := actions ▸ sound.actions
  have nonePool : forall pool, desk.closePool.pool = some pool ->
      pool.Within (rules.licence plain) := by
    intro pool present
    rw [noPool] at present
    cases present
  rw [Desk.openPool]
  cases access.connector with
  | error e => exact sound.keep transactions passage nonePool sameActions
  | ok connector =>
      rcases start_within rules plain context connector (access.pinned scope)
        desk.closePool.world
        with ⟨opened, within⟩
      simp only
      generalize Pool.start context connector (access.pinned scope) desk.closePool.world = answer
        at opened within ⊢
      rcases answer with ⟨e | pool, world⟩
      · exact sound.keep transactions (passage.trans opened) nonePool sameActions
      · refine sound.keep transactions (passage.trans opened) ?_ sameActions
        rintro other ⟨⟩
        exact within pool rfl

theorem openActions (sound : Sound origin rules plain (rules.licence plain).shut desk history)
    (context : Context) (access : Access) (scope : Scope) (classify : Sql.Classifier) :
    Sound origin rules plain (rules.licence plain)
      (desk.openActions context access scope classify).2 history := by
  have closed : Passage (rules.licence plain) [] desk.world [] desk.closeActions.world ∧
      desk.closeActions.transactions = desk.transactions ∧ desk.closeActions.actions = none ∧
        desk.closeActions.pool = desk.pool := by
    rw [Desk.closeActions]
    split
    · rename_i none
      exact ⟨.refl, rfl, none, rfl⟩
    · exact ⟨.removePool _, rfl, rfl, rfl⟩
  rcases closed with ⟨passage, transactions, noActions, pool⟩
  have samePool : forall pool, desk.closeActions.pool = some pool ->
      pool.Within (rules.licence plain) := pool ▸ sound.pool
  have noneActions : forall actions, desk.closeActions.actions = some actions ->
      actions.pool.Within (rules.licence plain) := by
    intro actions present
    rw [noActions] at present
    cases present
  rw [Desk.openActions]
  cases access.connector with
  | error e => exact sound.keep transactions passage samePool noneActions
  | ok connector =>
      rcases start_within rules plain context connector (access.pinned scope)
        desk.closeActions.world
        with ⟨opened, within⟩
      simp only
      generalize Pool.start context connector (access.pinned scope) desk.closeActions.world =
        answer at opened within ⊢
      rcases answer with ⟨e | pool, world⟩
      · exact sound.keep transactions (passage.trans opened) samePool noneActions
      · refine sound.keep transactions (passage.trans opened) samePool ?_
        rintro other ⟨⟩
        exact within pool rfl

theorem withPool (sound : Sound origin rules plain (rules.licence plain).shut desk history)
    (use : Pool -> World Server Session -> Except Error Reply × World Server Session)
    (passage : forall pool w, pool.Within (rules.licence plain) ->
      Passage (rules.licence plain) [] w [] (use pool w).2) :
    Sound origin rules plain (rules.licence plain) (desk.withPool use).2 history := by
  have within : forall pool, desk.pool? = some pool -> pool.Within (rules.licence plain) := by
    intro pool found
    rw [Desk.pool?, Option.or_eq_some_iff] at found
    rcases found with found | ⟨_, found⟩
    · exact sound.pool pool found
    · rcases Option.map_eq_some_iff.mp found with ⟨actions, present, rfl⟩
      exact sound.actions actions present
  rw [Desk.withPool]
  cases found : desk.pool? with
  | none => exact sound.keep rfl .refl sound.pool sound.actions
  | some pool =>
      exact sound.keep rfl (passage pool desk.world (within pool found)) sound.pool sound.actions

theorem carryOut (sound : Sound origin rules plain (rules.licence plain).shut desk history)
    {actions : Actions} (present : desk.actions = some actions) (context : Context) (plan : Plan)
    (plainly : plain -> Plain plan.sql) :
    Sound origin rules plain (rules.licence plain)
      { desk with world := (actions.carryOut context desk.world plan).2 }
      (history ++
        match plan.whole? with
        | none => []
        | some (scope, keep, commands) =>
          Transaction.wholeEvents context actions.connector scope keep commands desk.world) := by
  cases plan with
  | pooled sql format =>
      rw [Plan.whole?, List.append_nil]
      have passage : Passage (rules.licence plain) [] desk.world []
          (actions.pool.query context sql desk.world).2 :=
        Pool.query_passage (sound.actions actions present) True.intro context
          fun isPlain _ => (plainly isPlain).noCommit
      exact sound.keep rfl passage sound.pool sound.actions
  | read scope sql format =>
      have agrees : forall (tx : Transaction Session) (w : World Server Session),
          (tx.queryText context sql format w).2 =
              (Command.runAll context [.query sql format] tx w).2 ∧
            (tx.queryText context sql format w).1.isOk =
              (Command.runAll context [.query sql format] tx w).1.isOk := by
        intro tx w
        rw [Command.runAll, Command.run]
        rcases tx.queryText context sql format w with ⟨e | text, after, w'⟩ <;> exact ⟨rfl, rfl⟩
      have standing := sound.standing.whole context actions.connector scope false
        [.query sql format] (fun tx w => tx.queryText context sql format w) agrees
        fun isPlain statement member => by
          rw [List.mem_singleton.mp member]
          exact plainly isPlain
      exact sound.stay standing (nameless_whole _ _ _ _ _ _)
  | write scope sql report =>
      have agrees : forall (tx : Transaction Session) (w : World Server Session),
          (tx.execute context sql w).2 = (Command.runAll context [.execute sql] tx w).2 ∧
            (tx.execute context sql w).1.isOk =
              (Command.runAll context [.execute sql] tx w).1.isOk := by
        intro tx w
        rw [Command.runAll, Command.run]
        rcases tx.execute context sql w with ⟨e | count, after, w'⟩ <;> exact ⟨rfl, rfl⟩
      have standing := sound.standing.whole context actions.connector scope true
        [.execute sql] (fun tx w => tx.execute context sql w) agrees
        fun isPlain statement member => by
          rw [List.mem_singleton.mp member]
          exact plainly isPlain
      exact sound.stay standing (nameless_whole _ _ _ _ _ _)

theorem act (sound : Sound origin rules plain (rules.licence plain).shut desk history)
    (context : Context) (action : Action) (arguments : Json) {name : String}
    (plainly : plain -> forall sql, sql ∈ (Request.act name action arguments).statements ->
      Plain sql) :
    Sound origin rules plain (rules.licence plain) (desk.act context action arguments).2
      (history ++
        match desk.actions, Arguments.ofJson arguments with
        | some actions, .ok arguments =>
          match (action.plan actions.classify arguments).toOption.bind Plan.whole? with
          | none => []
          | some (scope, keep, commands) =>
            Transaction.wholeEvents context actions.connector scope keep commands desk.world
        | _, _ => []) := by
  have same : Sound origin rules plain (rules.licence plain) desk (history ++ []) := by
    rw [List.append_nil]
    exact sound.keep rfl .refl sound.pool sound.actions
  rw [Desk.act]
  cases present : desk.actions with
  | none => exact same
  | some actions =>
      cases read : Arguments.ofJson arguments with
      | error e => exact same
      | ok given =>
          simp only [Actions.perform, ← present]
          cases made : action.plan actions.classify given with
          | error e => exact same
          | ok plan =>
              apply sound.carryOut present context plan
              intro isPlain
              rcases action.plan_yields plan made with own | ⟨brings, text⟩
              · exact own
              · apply plainly isPlain _
                have brought : plan.sql ∈ Request.statements.broughtTo arguments := by
                  rw [Request.statements.broughtTo, read, Option.mem_toList]
                  simp only [Except.toOption, Option.bind_some, text]
                rcases brings with rfl | rfl <;> exact brought

/-! ## Any request -/

/-- A request that is answered leads from a sound desk to a sound desk. -/
theorem answer (sound : Sound origin rules plain (rules.licence plain).shut desk history)
    (request : Request)
    (plainly : plain -> forall sql, sql ∈ request.statements -> Plain sql) :
    Sound origin rules plain (rules.licence plain) (desk.answer request).2
      (history ++ desk.events request) := by
  -- Requests that tell nothing: they keep all transactions, and most keep the pools too.
  have quiet : forall {desk' : Desk Server Session},
      Sound origin rules plain (rules.licence plain) desk' history ->
      Sound origin rules plain (rules.licence plain) desk' (history ++ []) := by
    intro desk' sound'
    rw [List.append_nil]
    exact sound'
  have keep : forall {desk' : Desk Server Session}, desk'.transactions = desk.transactions ->
      desk'.pool = desk.pool -> desk'.actions = desk.actions ->
      Passage (rules.licence plain) [] desk.world [] desk'.world ->
      Sound origin rules plain (rules.licence plain) desk' (history ++ []) := by
    intro desk' transactions pool actions passage
    exact quiet (sound.keep transactions passage (pool ▸ sound.pool) (actions ▸ sound.actions))
  have calm : forall {w : World Server Session}, w.server = desk.world.server ->
      w.errands = desk.world.errands -> w.idle = desk.world.idle -> w.now = desk.world.now ->
      Passage (rules.licence plain) [] desk.world [] w := by
    intro w server errands idle now
    exact .calm server errands (idle ▸ (List.Perm.refl _).subperm) (now ▸ Nat.le_refl _)
  cases request with
  | newContext name time share =>
      cases share <;> exact keep rfl rfl rfl (calm rfl rfl rfl rfl)
  | cleanupContext name => exact keep rfl rfl rfl (calm rfl rfl rfl rfl)
  | cancel name =>
      rw [Desk.answer, Desk.cancel]
      split
      · exact keep rfl rfl rfl .refl
      · exact keep rfl rfl rfl (calm rfl rfl rfl rfl)
  | cancelAfter name time =>
      rw [Desk.answer, Desk.cancelAfter]
      split
      · exact keep rfl rfl rfl .refl
      · exact keep rfl rfl rfl
          (.spawn rfl rfl (fun _ member => nomatch member) (fun connects => nomatch connects))
  | contextState name => exact keep rfl rfl rfl .refl
  | work name operation time outcome =>
      rcases await_cases
        (rules.licence plain) desk.world (desk.context name) operation time
        with ⟨w', passed, waited | ⟨e, _, waited⟩⟩
      · rw [Desk.answer, Desk.work, waited]
        exact keep rfl rfl rfl passed
      · rw [Desk.answer, Desk.work, waited]
        exact keep rfl rfl rfl passed
  | advance time => exact keep rfl rfl rfl (advance_passage time)
  | begin name tx access scope => exact sound.begin (desk.context name) tx access scope
  | command name tx command => exact sound.command (desk.context name) tx command plainly
  | drop tx => exact sound.drop true tx
  | forget tx => exact sound.drop false tx
  | finish name tx outcome => exact sound.finish (desk.context name) tx outcome
  | transact name access scope keep commands =>
      exact sound.transact (desk.context name) access scope keep commands plainly
  | openPool name access scope =>
      exact quiet (sound.openPool (desk.context name) access scope)
  | openActions name access scope classify =>
      exact quiet (sound.openActions (desk.context name) access scope classify)
  | poolExecute name sql =>
      exact quiet (sound.withPool _ fun pool w within => Pool.execute_passage within True.intro _
        fun isPlain _ => (plainly isPlain sql List.mem_cons_self).noCommit)
  | poolQuery name sql format =>
      exact quiet (sound.withPool _ fun pool w within => Pool.query_passage within True.intro _
        fun isPlain _ => (plainly isPlain sql List.mem_cons_self).noCommit)
  | poolRows name sql =>
      exact quiet (sound.withPool _ fun pool w within => Pool.query_passage within True.intro _
        fun isPlain _ => (plainly isPlain sql List.mem_cons_self).noCommit)
  | poolTarget =>
      exact quiet (sound.withPool _ fun pool w within => .refl)
  | act name action arguments => exact sound.act (desk.context name) action arguments plainly

end Sound
end Desk
end ScopedSql
