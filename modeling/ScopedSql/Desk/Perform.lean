import ScopedSql.Desk.Basic

namespace ScopedSql
namespace Desk

/-!
# Answering requests
-/

variable {σ κ : Type}

/-! ## Contexts -/

def newContext (desk : Desk σ κ) (name : String) (time : Option Nat) (share : Option String) :
    Desk σ κ :=
  let w := desk.world
  let deadline := time.map (fun time => w.now + time)
  match share with
  | some other => desk.withContext name { token := (desk.context other).token, deadline }
  | none =>
    { desk with world := { w with freshToken := w.freshToken + 1 } }.withContext name
      { token := some w.freshToken, deadline }

/-- Make a new context for cleaning up, which has a token of its own. -/
def cleanupContext (desk : Desk σ κ) (name : String) : Desk σ κ :=
  let w := desk.world
  { desk with world := { w with freshToken := w.freshToken + 1 } }.withContext name
    { w.cleanup with token := some w.freshToken }

def cancel (desk : Desk σ κ) (name : String) : Desk σ κ :=
  match (desk.context name).token with
  | none => desk
  | some token => { desk with world := desk.world.cancel token }

variable [Backend σ κ]

def cancelAfter (desk : Desk σ κ) (name : String) (time : Nat) : Desk σ κ :=
  match (desk.context name).token with
  | none => desk
  | some token => { desk with world := desk.world.spawn time (.cancel token) }

def work (desk : Desk σ κ) (name operation : String) (time : Nat)
    (outcome : Except String String) : Except Error Reply × Desk σ κ :=
  match desk.world.await (desk.context name) operation time with
  | (.error e, world) => (.error e, { desk with world })
  | (.ok _, world) => (ofCaller outcome, { desk with world })

/-! ## Transactions -/

/-- Begin a transaction under a name.  An older one of the name is let go once
the new one has begun. -/
def begin (desk : Desk σ κ) (context : Context) (tx : String) (access : Access)
    (scope : Scope) : Except Error Reply × Desk σ κ :=
  match access.connector with
  | .error e => (.error e, desk)
  | .ok connector =>
    match Transaction.begin context connector scope desk.world with
    | (.error e, world) => (.error e, { desk with world })
    | (.ok new, world) =>
      let world := ((desk.transaction? tx).map (fun old => old.drop true world)).getD world
      (.ok .done, { desk with world }.withTransaction tx new)

def command (desk : Desk σ κ) (context : Context) (name : String) (command : Command) :
    Except Error Reply × Desk σ κ :=
  match desk.transaction? name with
  | none => (.ok (.missing .transaction), desk)
  | some tx =>
    let (result, tx, world) := command.run context tx desk.world
    (result, { desk with world }.withTransaction name tx)

/-- Let go of a transaction, with a runtime for the background work or without. -/
def drop (desk : Desk σ κ) (attended : Bool) (name : String) : Desk σ κ :=
  match desk.transaction? name with
  | none => desk
  | some tx => { desk with world := tx.drop attended desk.world }.withoutTransaction name

def finish (desk : Desk σ κ) (context : Context) (name : String)
    (outcome : Except String String) : Except Error Reply × Desk σ κ :=
  match desk.transaction? name with
  | none => (.ok (.missing .transaction), desk)
  | some tx =>
    let (result, _, world) := tx.finish context (ofCaller outcome) desk.world
    (result, { desk with world }.withoutTransaction name)

def transact (desk : Desk σ κ) (context : Context) (access : Access) (scope : Scope)
    (keep : Bool) (commands : List Command) : Except Error Reply × Desk σ κ :=
  match access.connector with
  | .error e => (.error e, desk)
  | .ok connector =>
    let body := Command.runAll context commands
    let (result, world) :=
      if keep then Transaction.beginWrite context connector scope body desk.world
      else Transaction.beginReadOnly context connector scope body desk.world
    (result.map Reply.list, { desk with world })

/-! ## Pool and actions -/

/-- Open a pool in the place of an older one, which is gone in any case. -/
def openPool (desk : Desk σ κ) (context : Context) (access : Access) (scope : Scope) :
    Except Error Reply × Desk σ κ :=
  let desk := desk.closePool
  match access.connector with
  | .error e => (.error e, desk)
  | .ok connector =>
    match Pool.start context connector (access.pinned scope) desk.world with
    | (.error e, world) => (.error e, { desk with world })
    | (.ok pool, world) => (.ok .done, { desk with world, pool := some pool })

/-- Open a pool and set up actions over it, in the place of older ones. -/
def openActions (desk : Desk σ κ) (context : Context) (access : Access) (scope : Scope)
    (classify : Sql.Classifier) : Except Error Reply × Desk σ κ :=
  let desk := desk.closeActions
  match access.connector with
  | .error e => (.error e, desk)
  | .ok connector =>
    match Pool.start context connector (access.pinned scope) desk.world with
    | (.error e, world) => (.error e, { desk with world })
    | (.ok pool, world) =>
      (.ok .done, { desk with world, actions := some { connector, pool, classify } })

def withPool (desk : Desk σ κ) (use : Pool -> World σ κ -> Except Error Reply × World σ κ) :
    Except Error Reply × Desk σ κ :=
  match desk.pool? with
  | none => (.ok (.missing .database), desk)
  | some pool =>
    let (result, world) := use pool desk.world
    (result, { desk with world })

def act (desk : Desk σ κ) (context : Context) (action : Action) (arguments : Json) :
    Except Error Reply × Desk σ κ :=
  match desk.actions with
  | none => (.ok (.missing .actions), desk)
  | some actions =>
    match Arguments.ofJson arguments with
    | .error e => (.error e, desk)
    | .ok arguments =>
      let (result, world) := actions.perform context action arguments desk.world
      (result.map Reply.text, { desk with world })

/-! ## Requests -/

def answer (desk : Desk σ κ) : Request -> Except Error Reply × Desk σ κ
  | .newContext name time share => (.ok .done, desk.newContext name time share)
  | .cleanupContext name => (.ok .done, desk.cleanupContext name)
  | .cancel name => (.ok .done, desk.cancel name)
  | .cancelAfter name time => (.ok .done, desk.cancelAfter name time)
  | .contextState name =>
    let context := desk.context name
    (.ok (.contextState (desk.world.isCancelled context) context.deadline.isSome), desk)
  | .work name operation time outcome => desk.work name operation time outcome
  | .advance time => (.ok .done, { desk with world := desk.world.advance time })
  | .begin name tx access scope => desk.begin (desk.context name) tx access scope
  | .command name tx command => desk.command (desk.context name) tx command
  | .drop tx => (.ok .done, desk.drop true tx)
  | .forget tx => (.ok .done, desk.drop false tx)
  | .finish name tx outcome => desk.finish (desk.context name) tx outcome
  | .transact name access scope keep commands =>
    desk.transact (desk.context name) access scope keep commands
  | .openPool name access scope => desk.openPool (desk.context name) access scope
  | .poolExecute name sql => desk.withPool (fun pool w =>
      let (result, w) := pool.execute (desk.context name) sql w
      (result.map Reply.count, w))
  | .poolQuery name sql format => desk.withPool (fun pool w =>
      let (result, w) := pool.queryText (desk.context name) sql format w
      (result.map Reply.text, w))
  | .poolRows name sql => desk.withPool (fun pool w =>
      let (result, w) := pool.query (desk.context name) sql w
      (result.map Reply.rows, w))
  | .poolTarget => desk.withPool (fun pool w => (.ok (.text pool.connector.name), w))
  | .openActions name access scope classify =>
    desk.openActions (desk.context name) access scope classify
  | .act name action arguments => desk.act (desk.context name) action arguments

def settle (desk : Desk σ κ) : Desk σ κ :=
  { desk with world := desk.world.settle }

/-- Answer a request, and then do the background work that is due. -/
def perform (desk : Desk σ κ) (request : Request) : Except Error Reply × Desk σ κ :=
  let (result, desk) := desk.answer request
  (result, desk.settle)

end Desk
end ScopedSql
