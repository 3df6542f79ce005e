import ScopedSql.Backend

namespace ScopedSql

/-!
# The state of everything

A world holds the clock, the tokens that are cancelled, the work that goes on in
the background, the sessions that pools keep, and the server.  Time is counted
in milliseconds and moves only while something waits.
-/

/-- When a request ends: a token that may be cancelled, and a point in time. -/
structure Context where
  token : Option Nat
  deadline : Option Nat
  deriving DecidableEq, Repr

/-- The longest time that cleaning up may take. -/
def cleanupTime : Nat := 5000

/-- The context that also ends at a point in time. -/
def Context.upTo (context : Context) (limit : Nat) : Context :=
  { context with deadline := some ((context.deadline.map (min limit)).getD limit) }

/-- Work that goes on in the background. -/
inductive Task (κ : Type)
  /-- Cancel a token. -/
  | cancel (token : Nat)
  /-- Roll back, unless that takes too long, and close. -/
  | abandon (session : κ) (inTime : Bool)
  /-- Open a session for a pool. -/
  | connect (pool : Nat) (target : Target) (pinned : List String)
  /-- Run a statement on a session that is being opened for a pool, then the rest. -/
  | position (pool : Nat) (session : κ) (sql : String) (rest : List String)

/-- A task and the time at which its next step is due. -/
structure Errand (κ : Type) where
  due : Nat
  task : Task κ

def Task.steps {κ : Type} : Task κ -> Nat
  | .cancel _ => 1
  | .abandon _ _ => 1
  | .connect _ _ pinned => pinned.length + 1
  | .position _ _ _ rest => rest.length + 1

/-- Is the task to open a session for this pool? -/
def Task.opensFor {κ : Type} (pool : Nat) : Task κ -> Bool
  | .connect other _ _ => other = pool
  | .position other _ _ _ => other = pool
  | _ => false

/-- A session as it was opened for a pool, and the statements that are to put it in its place. -/
structure Opening (κ : Type) where
  session : κ
  pinned : List String

/-- The state of everything. -/
structure World (σ κ : Type) where
  now : Nat
  /-- The first token that is not in use. -/
  freshToken : Nat
  cancelled : List Nat
  /-- The background work, the earliest first. -/
  errands : List (Errand κ)
  /-- The first number that no pool has. -/
  freshPool : Nat
  /-- The pools in use. -/
  pools : List Nat
  /-- The sessions that pools keep, under the numbers of the pools. -/
  idle : List (Nat × κ)
  /-- The sessions that were opened for pools, the last first.  They are written down for the
  accounts: nothing that is done depends on them, and what became of them is told by the server. -/
  openings : List (Opening κ)
  server : σ

namespace World

variable {σ κ : Type}

def start (server : σ) : World σ κ :=
  { now := 0, freshToken := 0, cancelled := [], errands := [], freshPool := 0, pools := [],
    idle := [], openings := [], server }

def isCancelled (w : World σ κ) (context : Context) : Bool :=
  (context.token.map w.cancelled.contains).getD false

def cancel (w : World σ κ) (token : Nat) : World σ κ :=
  { w with cancelled := token :: w.cancelled }

/-- A context for cleaning up: nobody can cancel it, and it lasts a fixed time. -/
def cleanup (w : World σ κ) : Context :=
  { token := none, deadline := some (w.now + cleanupTime) }

/-- Put an errand behind those that are due no later. -/
def insertErrand (errand : Errand κ) : List (Errand κ) -> List (Errand κ)
  | [] => [errand]
  | first :: rest =>
    if first.due ≤ errand.due then first :: insertErrand errand rest
    else errand :: first :: rest

def spawn (w : World σ κ) (wait : Nat) (task : Task κ) : World σ κ :=
  { w with errands := insertErrand ⟨w.now + wait, task⟩ w.errands }

/-- The number of steps that all background work has left at most. -/
def load (w : World σ κ) : Nat :=
  w.errands.foldr (fun errand rest => errand.task.steps + rest) 0

/-! ## Sessions that pools keep -/

def idle? (w : World σ κ) (pool : Nat) : Option κ := w.idle.lookup pool

/-- The pool keeps no session any more. -/
def takeIdle (w : World σ κ) (pool : Nat) : World σ κ :=
  { w with idle := w.idle.filter (fun kept => kept.1 ≠ pool) }

/-- Give a session to a pool; a pool that is not in use lets it go. -/
def putBack (w : World σ κ) (pool : Nat) (session : κ) : World σ κ :=
  if w.pools.contains pool then { w with idle := (pool, session) :: w.idle } else w

/-- Write down that a session was opened for a pool. -/
def note (w : World σ κ) (session : κ) (pinned : List String) : World σ κ :=
  { w with openings := ⟨session, pinned⟩ :: w.openings }

def addPool (w : World σ κ) : World σ κ :=
  { w with freshPool := w.freshPool + 1, pools := w.freshPool :: w.pools }

/-- Put a pool out of use.  The session that it keeps is forgotten, not closed. -/
def removePool (w : World σ κ) (pool : Nat) : World σ κ :=
  { w with
    pools := w.pools.filter (fun other => other ≠ pool)
    idle := w.idle.filter (fun kept => kept.1 ≠ pool) }

def isOpening (w : World σ κ) (pool : Nat) : Bool :=
  w.errands.any (fun errand => errand.task.opensFor pool)

/-! ## Calls to the server -/

variable [Backend σ κ]

def execute (w : World σ κ) (sql : String) (session : κ) : Except Error Nat × κ × World σ κ :=
  let (result, session, server) := Backend.execute sql session w.server
  (result, session, { w with server })

def query (w : World σ κ) (sql : String) (session : κ) :
    Except Error ResultSet × κ × World σ κ :=
  let (result, session, server) := Backend.query sql session w.server
  (result, session, { w with server })

def ping (w : World σ κ) (session : κ) : Except Error Unit × κ × World σ κ :=
  let (result, session, server) := Backend.ping session w.server
  (result, session, { w with server })

def close (w : World σ κ) (session : κ) : World σ κ :=
  { w with server := Backend.close session w.server }

def connect (w : World σ κ) (target : Target) : Except Error κ × World σ κ :=
  let (result, server) := Backend.connect target w.server
  (result, { w with server })

def delay (w : World σ κ) (sql : String) : Nat := Backend.delay sql w.server

end World
end ScopedSql
