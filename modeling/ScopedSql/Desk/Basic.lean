import ScopedSql.Action.Run
import ScopedSql.Desk.Command

namespace ScopedSql

/-!
# A desk where requests arrive

A desk keeps contexts and transactions by name, at most one pool and at most one
set of actions, all over one world.  Requests are taken one at a time.  When one
is answered, the background work that is due is done before the next.
-/

/-- The way to a server: a connector, or a configuration that is still to be checked. -/
inductive Access
  | by (connector : Connector)
  | from (config : Config)
  deriving DecidableEq, Repr

def Access.connector : Access -> Except Error Connector
  | .by connector => .ok connector
  | .from config => Connector.ofConfig config

/-- The scope to which a pool is pinned: a configuration brings its own. -/
def Access.pinned (scope : Scope) : Access -> Scope
  | .by _ => scope
  | .from config => config.pinnedScope

/-- A request. -/
inductive Request
  /-- A new context, with an end after some time, on the token of another context or its own. -/
  | newContext (name : String) (time : Option Nat) (share : Option String)
  /-- A new context for cleaning up. -/
  | cleanupContext (name : String)
  | cancel (context : String)
  | cancelAfter (context : String) (time : Nat)
  | contextState (context : String)
  /-- Work of a caller that takes some time within a context. -/
  | work (context operation : String) (time : Nat) (outcome : Except String String)
  | advance (time : Nat)
  | begin (context tx : String) (access : Access) (scope : Scope)
  | command (context tx : String) (command : Command)
  /-- Let go of a transaction. -/
  | drop (tx : String)
  /-- Let go of a transaction where no runtime does any work in the background. -/
  | forget (tx : String)
  | finish (context tx : String) (outcome : Except String String)
  /-- Begin a transaction, give it commands, and end it. -/
  | transact (context : String) (access : Access) (scope : Scope) (keep : Bool)
      (commands : List Command)
  | openPool (context : String) (access : Access) (scope : Scope)
  | poolExecute (context sql : String)
  | poolQuery (context sql : String) (format : Format)
  | poolRows (context sql : String)
  | poolTarget
  | openActions (context : String) (access : Access) (scope : Scope) (classify : Sql.Classifier)
  | act (context : String) (action : Action) (arguments : Json)

/-- The state between requests. -/
structure Desk (σ κ : Type) where
  world : World σ κ
  contexts : List (String × Context)
  transactions : List (String × Transaction κ)
  pool : Option Pool
  actions : Option Actions

namespace Desk

variable {σ κ : Type}

def mainContext : String := "main"

def start (server : σ) : Desk σ κ :=
  { world := { World.start server with freshToken := 1 }
    contexts := [(mainContext, { token := some 0, deadline := none })]
    transactions := [], pool := none, actions := none }

def context (desk : Desk σ κ) (name : String) : Context :=
  (desk.contexts.lookup name).getD { token := none, deadline := none }

def transaction? (desk : Desk σ κ) (name : String) : Option (Transaction κ) :=
  desk.transactions.lookup name

def withoutTransaction (desk : Desk σ κ) (name : String) : Desk σ κ :=
  { desk with transactions := desk.transactions.filter (fun kept => kept.1 ≠ name) }

def withTransaction (desk : Desk σ κ) (name : String) (tx : Transaction κ) : Desk σ κ :=
  { desk with transactions := (name, tx) :: (desk.withoutTransaction name).transactions }

def withContext (desk : Desk σ κ) (name : String) (context : Context) : Desk σ κ :=
  { desk with contexts := (name, context) :: desk.contexts }

/-- The pool for single statements: the one that was opened for them, or that of the actions. -/
def pool? (desk : Desk σ κ) : Option Pool :=
  desk.pool.or (desk.actions.map Actions.pool)

def closePool (desk : Desk σ κ) : Desk σ κ :=
  match desk.pool with
  | none => desk
  | some pool => { desk with pool := none, world := desk.world.removePool pool.number }

def closeActions (desk : Desk σ κ) : Desk σ κ :=
  match desk.actions with
  | none => desk
  | some actions =>
    { desk with actions := none, world := desk.world.removePool actions.pool.number }

/-- An outcome that a caller words itself. -/
def ofCaller (outcome : Except String String) : Except Error Reply :=
  match outcome with
  | .ok text => .ok (.text text)
  | .error text => .error (.reported text)

end Desk
end ScopedSql
