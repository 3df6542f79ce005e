import ScopedSql.Format.Render
import ScopedSql.World.Elapse

namespace ScopedSql

/-!
# Pools of sessions

A pool lends sessions for single statements.  If it is pinned to a scope, every
session is put on that scope when it is opened and again each time it is lent,
so that no place where one caller left it shows to the next.  A pool that is not
pinned only sees whether the session still answers.

A session that fails this check is let go without being closed, and another one
is opened.  Opening goes on in the background, for one session at a time, and a
caller waits for it.  After use the session goes back, whatever came of the use.

How sessions are kept, opened and handed out is the business of a library for
pools, of which two things are assumed.  Since requests come one at a time, it
opens no second session while one is being opened or is free, so a pool keeps one
session whatever its greatest size.  And it neither lets go of a session because
of its age nor because it was long unused.
-/

/-- A pool: its number, how it opens sessions, and the statements that put them on its scope. -/
structure Pool where
  number : Nat
  connector : Connector
  pinned : List String
  deriving DecidableEq, Repr

namespace Pool

/-- The longest time that a caller waits for a session.  This is assumed of the library. -/
def patience : Nat := 30000

variable {σ κ : Type} [Backend σ κ]

/-- Start a pool.  The names of its scope are checked first; then one session is
opened, asked for an answer and closed again, to see that the server can be
reached. -/
def start (context : Context) (connector : Connector) (scope : Scope) (w : World σ κ) :
    Except Error Pool × World σ κ :=
  match scope.statements with
  | .error e => (.error e, w)
  | .ok pinned =>
    match w.connectIn context connector.target with
    | (.error e, w) => (.error e, w)
    | (.ok session, w) =>
      let (answered, session, w) := w.pingIn context session
      let w := w.close session
      match answered with
      | .error e => (.error e, w)
      | .ok _ => (.ok ⟨w.freshPool, connector, pinned⟩, w.addPool)

/-- What came of checking a session. -/
inductive Checked
  | passed
  | failed
  | cutOff (cause : Error)

/-- Put a session through statements, as far as the context lasts. -/
def reposition (context : Context) :
    List String -> κ -> World σ κ -> Checked × κ × World σ κ
  | [], session, w => (.passed, session, w)
  | sql :: rest, session, w =>
    match w.await context "acquire" (w.delay sql) with
    | (.error e, w) => (.cutOff e, session, w)
    | (.ok _, w) =>
      match w.execute sql session with
      | (.ok _, session, w) => reposition context rest session w
      | (.error _, session, w) => (.failed, session, w)

/-- Check a session before it is lent. -/
def check (pool : Pool) (context : Context) (session : κ) (w : World σ κ) :
    Checked × κ × World σ κ :=
  if pool.pinned.isEmpty then
    match w.ping session with
    | (.ok _, session, w) => (.passed, session, w)
    | (.error _, session, w) => (.failed, session, w)
  else reposition context pool.pinned session w

/-- Have a session opened in the background, unless one is being opened. -/
def request (pool : Pool) (w : World σ κ) : World σ κ :=
  if w.isOpening pool.number then w
  else w.spawn 0 (.connect pool.number pool.connector.target pool.pinned)

def awaitIdle (pool : Pool) (context : Context) (limit : Nat) (w : World σ κ) :
    Except Error Unit × World σ κ :=
  if limit ≤ w.now then (.error (.timedOut "acquire"), w)
  else
    let after :=
      w.elapse (fun w => w.isCancelled context || (w.idle? pool.number).isSome) limit
    if after.isCancelled context then (.error (.cancelled "acquire"), after)
    else if (after.idle? pool.number).isSome then (.ok (), after)
    else (.error (.timedOut "acquire"), after.moveTo limit)

/-- Why waiting for a session failed.  If it was the patience of the pool that
ended first, there was no session to be had. -/
def fault (context : Context) (limit : Nat) : Error -> Error
  | .timedOut operation =>
    match context.deadline with
    | some deadline =>
      if deadline < limit then .timedOut operation else .connection .poolExhausted
    | none => .connection .poolExhausted
  | e => e

/-- Get a checked session before a limit.  The rounds bound how often a session is tried. -/
def acquireBefore (pool : Pool) (context : Context) (limit : Nat) :
    Nat -> World σ κ -> Except Error κ × World σ κ
  | 0, w => (.error (.connection .poolExhausted), w)
  | rounds + 1, w =>
    let bounded := context.upTo limit
    match w.idle? pool.number with
    | some session =>
      match pool.check bounded session (w.takeIdle pool.number) with
      | (.passed, session, w) => (.ok session, w)
      | (.failed, _, w) => acquireBefore pool context limit rounds w
      | (.cutOff e, session, w) =>
        (.error (fault context limit e), w.putBack pool.number session)
    | none =>
      match pool.awaitIdle context (bounded.deadline.getD limit) (pool.request w) with
      | (.ok _, w) => acquireBefore pool context limit rounds w
      | (.error e, w) => (.error (fault context limit e), w)

/-- How often a session is tried before there is none to be had.  The library sets no such bound;
that it comes to an end by then is assumed: a session that was kept may fail its check, and so may
the one that is opened in its place. -/
def rounds : Nat := 4

def acquire (pool : Pool) (context : Context) (w : World σ κ) : Except Error κ × World σ κ :=
  if w.isCancelled context then (.error (.cancelled "acquire"), w)
  else pool.acquireBefore context (w.now + patience) rounds w

def execute (pool : Pool) (context : Context) (sql : String) (w : World σ κ) :
    Except Error Nat × World σ κ :=
  match pool.acquire context w with
  | (.error e, w) => (.error e, w)
  | (.ok session, w) =>
    let (result, session, w) := w.executeIn context "exec" sql session
    (result, w.putBack pool.number session)

def query (pool : Pool) (context : Context) (sql : String) (w : World σ κ) :
    Except Error ResultSet × World σ κ :=
  match pool.acquire context w with
  | (.error e, w) => (.error e, w)
  | (.ok session, w) =>
    let (result, session, w) := w.queryIn context "query" sql session
    (result, w.putBack pool.number session)

/-- Run a statement on a lent session for its rows as a text. -/
def queryText (pool : Pool) (context : Context) (sql : String) (format : Format)
    (w : World σ κ) : Except Error String × World σ κ :=
  let (result, w) := pool.query context sql w
  (result.bind (fun set => set.render format), w)

end Pool
end ScopedSql
