import ScopedSql.Backend
import ScopedSql.Scripted.Control

namespace ScopedSql
namespace Scripted

/-!
# A server in memory

The server follows rules that say which names exist, which statements fail, what
they answer and how long they take.  It keeps a ledger of every statement with
the place of its session, of the work that was committed, and of the sessions
that were opened and closed.
-/

/-- What the server does.  Of several rules for a statement the first counts. -/
structure Rules where
  /-- The databases that exist; all of them if nothing is said. -/
  databases : Option (List String)
  /-- The branches that exist; all of them if nothing is said. -/
  branches : Option (List String)
  /-- Statements with a pattern that fail, and how. -/
  failures : List (String × String)
  /-- Statements with a pattern that answer, and what. -/
  responses : List (String × ResultSet)
  /-- Statements with a pattern that take time, and how much. -/
  delays : List (String × Nat)
  connectFailure : Option String
  pingFailure : Option String

/-- A server that knows every name and answers nothing. -/
def Rules.standard : Rules :=
  { databases := none, branches := none, failures := [], responses := [], delays := [],
    connectFailure := none, pingFailure := none }

def ruleFor? {α : Type} (sql : String) (rules : List (String × α)) : Option α :=
  (rules.find? (fun rule => Text.contains sql rule.1)).map (fun rule => rule.2)

/-- A statement and where its session stood before. -/
structure Entry where
  session : Nat
  database : Option String
  branch : Option String
  sql : String
  deriving DecidableEq, Repr

/-- What happened on the server, in order.  Sessions are numbered from one on, so
the number of those that were opened is also the number of the last. -/
structure Ledger where
  entries : List Entry
  committed : List String
  opened : Nat
  closed : List Nat
  deriving DecidableEq, Repr

def Ledger.empty : Ledger :=
  { entries := [], committed := [], opened := 0, closed := [] }

def Ledger.count (ledger : Ledger) (sql : String) : Nat :=
  ledger.entries.countP (fun entry => entry.sql = sql)

/-- Rules and ledger. -/
structure Server where
  rules : Rules
  ledger : Ledger

/-- A session: its number, where it stands, and the work that is not committed yet. -/
structure Session where
  number : Nat
  database : Option String
  branch : Option String
  pending : List String
  deriving DecidableEq, Repr

namespace Server

/-- A server with standard rules on which nothing happened. -/
def standard : Server := ⟨Rules.standard, Ledger.empty⟩

def connect (target : Target) (server : Server) : Except Error Session × Server :=
  match target with
  | .network _ _ => (.error (.server .lost), server)
  | .direct =>
    match server.rules.connectFailure with
    | some text => (.error (.connection (.refused text)), server)
    | none =>
      let number := server.ledger.opened + 1
      (.ok { number, database := none, branch := none, pending := [] },
        { server with ledger := { server.ledger with opened := number } })

def delay (sql : String) (server : Server) : Nat :=
  (ruleFor? sql server.rules.delays).getD 0

def isKnown (name : String) (names : Option (List String)) : Bool :=
  (names.map (fun names => names.contains name)).getD true

def note (sql : String) (session : Session) (server : Server) : Server :=
  let entry := { session := session.number, database := session.database,
                 branch := session.branch, sql }
  { server with ledger := { server.ledger with entries := server.ledger.entries ++ [entry] } }

/-- What a statement does to its session and to the committed work. -/
def follow (sql : String) (session : Session) (server : Server) :
    Except Error Unit × Session × Server :=
  match Control.read sql with
  | .begin => (.ok (), { session with pending := [] }, server)
  | .commit =>
    let committed := server.ledger.committed ++ session.pending
    (.ok (), { session with pending := [] },
      { server with ledger := { server.ledger with committed } })
  | .rollback => (.ok (), { session with pending := [] }, server)
  | .use name =>
    if isKnown name server.rules.databases then
      (.ok (), { session with database := some name, branch := none }, server)
    else (.error (.reported ("database not found: " ++ name)), session, server)
  | .checkout name =>
    if isKnown name server.rules.branches then
      (.ok (), { session with branch := some name }, server)
    else (.error (.reported ("branch not found: " ++ name)), session, server)
  | .work => (.ok (), { session with pending := session.pending ++ [sql] }, server)

/-- Run a statement: note it, fail if a rule says so, follow it, and answer. -/
def run (sql : String) (session : Session) (server : Server) :
    Except Error (Option ResultSet) × Session × Server :=
  let server := server.note sql session
  match ruleFor? sql server.rules.failures with
  | some text => (.error (.reported text), session, server)
  | none =>
    match server.follow sql session with
    | (.error e, session, server) => (.error e, session, server)
    | (.ok _, session, server) =>
      (.ok (ruleFor? sql server.rules.responses), session, server)

def execute (sql : String) (session : Session) (server : Server) :
    Except Error Nat × Session × Server :=
  let (result, session, server) := server.run sql session
  (result.map (fun answer => (answer.map ResultSet.affected).getD 0), session, server)

def query (sql : String) (session : Session) (server : Server) :
    Except Error ResultSet × Session × Server :=
  let (result, session, server) := server.run sql session
  (result.map (fun answer => answer.getD ResultSet.empty), session, server)

/-- See whether the server still answers. -/
def ping (session : Session) (server : Server) : Except Error Unit × Session × Server :=
  match server.rules.pingFailure with
  | some text => (.error (.connection (.refused text)), session, server)
  | none => (.ok (), session, server)

def close (session : Session) (server : Server) : Server :=
  { server with
    ledger := { server.ledger with closed := server.ledger.closed ++ [session.number] } }

instance : Backend Server Session where
  connect := connect
  delay := delay
  execute := execute
  query := query
  ping := ping
  close := close

end Server

def connector : Connector := ⟨.direct, "scripted"⟩

end Scripted
end ScopedSql
