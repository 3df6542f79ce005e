import ScopedSql.Format.Render
import ScopedSql.World.Elapse

namespace ScopedSql

/-!
# Transactions on a scope

A transaction owns one session from its start to its end.  Which database and
branch a statement works on is a matter of the session, so the session is put
on the scope of the transaction before any statement of a caller, and is closed
when the transaction ends.  Nothing else ever sees it.

A transaction ends once, committed or rolled back.  Cleaning up does not depend
on the context of the caller: it goes on when that context has been cancelled.
-/

/-- A transaction is live, with its session, or has ended. -/
inductive Phase (κ : Type)
  | live (session : κ)
  | ended (ending : Ending)

/-- A transaction. -/
structure Transaction (κ : Type) where
  scope : Scope
  phase : Phase κ

namespace Transaction

variable {σ κ : Type}

def isOpen (tx : Transaction κ) : Bool :=
  match tx.phase with
  | .live _ => true
  | .ended _ => false

def stateWord (tx : Transaction κ) : String :=
  match tx.phase with
  | .live _ => "Open"
  | .ended ending => ending.word

def withSession (tx : Transaction κ) (session : κ) : Transaction κ :=
  { tx with phase := .live session }

def ending (tx : Transaction κ) (ending : Ending) : Transaction κ :=
  { tx with phase := .ended ending }

variable [Backend σ κ]

/-! ## Ending -/

/-- Roll back and end.  The transaction is over whether or not the server could
be told in time.  One that has ended stays as it is. -/
def rollback (tx : Transaction κ) (w : World σ κ) :
    Except Error Unit × Transaction κ × World σ κ :=
  match tx.phase with
  | .ended _ => (.ok (), tx, w)
  | .live session =>
    match w.executeIn w.cleanup "rollback" "ROLLBACK" session with
    | (.ok _, session, w) => (.ok (), tx.ending .rolledBack, w.close session)
    | (.error e, session, w) => (.error e, tx.ending .rolledBack, w.close session)

/-- Commit and end.  A commit that fails is followed by a rollback, whose own
outcome does not count. -/
def commit (tx : Transaction κ) (context : Context) (w : World σ κ) :
    Except Error Unit × Transaction κ × World σ κ :=
  match tx.phase with
  | .ended ending => (.error (.finished ending), tx, w)
  | .live session =>
    match w.executeIn context "commit" "COMMIT" session with
    | (.ok _, session, w) => (.ok (), tx.ending .committed, w.close session)
    | (.error e, session, w) =>
      let (_, tx, w) := (tx.withSession session).rollback w
      (.error e, tx, w)

/-- Let go of a transaction.  One that is still live is rolled back and closed
in the background, if there is a runtime that does such work.  Where there is
none, its session is forgotten, neither rolled back nor closed. -/
def drop (tx : Transaction κ) (attended : Bool) (w : World σ κ) : World σ κ :=
  match tx.phase with
  | .ended _ => w
  | .live session =>
    if attended then
      let time := w.delay "ROLLBACK"
      w.spawn (min time cleanupTime) (.abandon session (time ≤ cleanupTime))
    else w

/-! ## Statements -/

/-- Run a statement under the name of an operation. -/
def executeAs (tx : Transaction κ) (context : Context) (operation sql : String)
    (w : World σ κ) : Except Error Nat × Transaction κ × World σ κ :=
  match tx.phase with
  | .ended ending => (.error (.finished ending), tx, w)
  | .live session =>
    let (result, session, w) := w.executeIn context operation sql session
    (result, tx.withSession session, w)

def execute (tx : Transaction κ) (context : Context) (sql : String) (w : World σ κ) :
    Except Error Nat × Transaction κ × World σ κ :=
  tx.executeAs context "exec" sql w

def query (tx : Transaction κ) (context : Context) (sql : String) (w : World σ κ) :
    Except Error ResultSet × Transaction κ × World σ κ :=
  match tx.phase with
  | .ended ending => (.error (.finished ending), tx, w)
  | .live session =>
    let (result, session, w) := w.queryIn context "query" sql session
    (result, tx.withSession session, w)

def queryText (tx : Transaction κ) (context : Context) (sql : String) (format : Format)
    (w : World σ κ) : Except Error String × Transaction κ × World σ κ :=
  let (result, tx, w) := tx.query context sql w
  (result.bind (fun set => set.render format), tx, w)

/-! ## Beginning -/

/-- Run statements in order.  The first that fails rolls the transaction back
and is the fault, whatever comes of the rollback. -/
def bootstrap (tx : Transaction κ) (context : Context) :
    List String -> World σ κ -> Except Error (Transaction κ) × World σ κ
  | [], w => (.ok tx, w)
  | sql :: rest, w =>
    match tx.executeAs context "bootstrap" sql w with
    | (.ok _, tx, w) => tx.bootstrap context rest w
    | (.error e, tx, w) =>
      let (_, _, w) := tx.rollback w
      (.error e, w)

/-- Begin a transaction on a scope.  The names of the scope are checked before a
session is opened.  A session that cannot begin is closed again. -/
def begin (context : Context) (connector : Connector) (scope : Scope) (w : World σ κ) :
    Except Error (Transaction κ) × World σ κ :=
  match scope.statements with
  | .error e => (.error e, w)
  | .ok statements =>
    match w.connectIn context connector.target with
    | (.error e, w) => (.error e, w)
    | (.ok session, w) =>
      match w.executeIn context "begin" "START TRANSACTION" session with
      | (.error e, session, w) => (.error e, w.close session)
      | (.ok _, session, w) => bootstrap ⟨scope, .live session⟩ context statements w

end Transaction
end ScopedSql
