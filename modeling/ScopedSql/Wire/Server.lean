import ScopedSql.Backend
import ScopedSql.Wire.Batch

namespace ScopedSql
namespace Wire

/-!
# Servers on the network

A server answers every statement with a list of replies, by the first rule whose
pattern stands in the statement.  It keeps a log of what reached it.  A server
that cannot be reached answers nothing at all, and neither does one whose
connection was lost.
-/

/-- A fault that a server reports. -/
structure Report where
  code : Nat
  state : String
  text : String
  deriving DecidableEq, Repr

def Report.error (report : Report) : Error :=
  .server (.reported report.code report.state report.text)

/-- One reply to a statement. -/
inductive Reply
  | affected (n : Nat)
  | rows (lines : List Line)
  | fault (report : Report)
  | disconnect
  deriving DecidableEq, Repr

/-- What the server does on statements with a pattern. -/
structure Rule where
  pattern : String
  replies : List Reply
  /-- The columns that preparing the statement tells, if it can be prepared. -/
  described : Option (List Column)
  deriving DecidableEq, Repr

/-- What the server does. -/
structure Rules where
  rules : List Rule
  connectFault : Option Report
  pingFault : Option Report
  deriving DecidableEq, Repr

/-- What reached the server on a connection. -/
inductive Event
  | connected (user : String) (database : Option String)
  | queried (sql : String)
  | pinged
  | prepared (sql : String)
  deriving DecidableEq, Repr

/-- A server, which can be reached if it has rules, and what reached it so far. -/
structure Server where
  rules : Option Rules
  connections : Nat
  log : List (Nat × Event)
  deriving DecidableEq, Repr

/-- A connection: its number, whether it was lost, and how it reads dates. -/
structure Session where
  number : Nat
  lost : Bool
  parseTime : Bool
  deriving DecidableEq, Repr

/-- What came of a statement: the rows that it affected and those that it yielded. -/
structure Outcome where
  affected : Nat
  lines : List Line
  deriving DecidableEq, Repr

/-- Gather replies in order.  A fault or the loss of the connection ends the
statement; the second component says whether the connection was lost. -/
def gather (sofar : Outcome) : List Reply -> Except Error Outcome × Bool
  | [] => (.ok sofar, false)
  | .affected n :: rest => gather { sofar with affected := sofar.affected + n } rest
  | .rows lines :: rest => gather { sofar with lines := sofar.lines ++ lines } rest
  | .fault report :: _ => (.error report.error, false)
  | .disconnect :: _ => (.error (.server .lost), true)

namespace Server

def unreachable : Server := { rules := none, connections := 0, log := [] }

def withRules (rules : Rules) : Server := { unreachable with rules := some rules }

def note (server : Server) (session : Session) (event : Event) : Server :=
  { server with log := server.log ++ [(session.number, event)] }

/-- The rules, if the connection still leads to them. -/
def reached (server : Server) (session : Session) : Option Rules :=
  if session.lost then none else server.rules

def ruleFor? (rules : Rules) (sql : String) : Option Rule :=
  rules.rules.find? (fun rule => Text.contains sql rule.pattern)

def repliesTo (rules : Rules) (sql : String) : List Reply :=
  ((ruleFor? rules sql).map Rule.replies).getD []

/-- Open a connection with the parameters of a target. -/
def connect (target : Target) (server : Server) : Except Error Session × Server :=
  match target, server.rules with
  | .network options parseTime, some rules =>
    let session := { number := server.connections + 1, lost := false, parseTime }
    let server := { server with connections := session.number }.note session
      (.connected options.user options.database)
    match rules.connectFault with
    | some report => (.error report.error, server)
    | none => (.ok session, server)
  | _, _ => (.error (.server .lost), server)

def send (sql : String) (session : Session) (server : Server) :
    Except Error Outcome × Session × Server :=
  match server.reached session with
  | none => (.error (.server .lost), session, server)
  | some rules =>
    let (outcome, lost) := gather ⟨0, []⟩ (repliesTo rules sql)
    (outcome, { session with lost }, server.note session (.queried sql))

def execute (sql : String) (session : Session) (server : Server) :
    Except Error Nat × Session × Server :=
  let (outcome, session, server) := server.send sql session
  (outcome.map Outcome.affected, session, server)

/-- The columns that preparing a statement tells; none if it cannot be prepared. -/
def describe (sql : String) (session : Session) (server : Server) : List String × Server :=
  match server.reached session with
  | none => ([], server)
  | some rules =>
    let described := ((ruleFor? rules sql).bind Rule.described).getD []
    (described.map Column.name, server.note session (.prepared sql))

/-- Run a statement for its rows.  One that yields no row is prepared as well, so
that its columns are known. -/
def query (sql : String) (session : Session) (server : Server) :
    Except Error ResultSet × Session × Server :=
  match server.send sql session with
  | (.error e, session, server) => (.error e, session, server)
  | (.ok outcome, session, server) =>
    if outcome.lines.isEmpty then
      let (columns, server) := server.describe sql session
      (collect session.parseTime columns [], session, server)
    else (collect session.parseTime [] outcome.lines, session, server)

def ping (session : Session) (server : Server) : Except Error Unit × Session × Server :=
  match server.reached session with
  | none => (.error (.server .lost), session, server)
  | some rules =>
    let server := server.note session .pinged
    match rules.pingFault with
    | some report => (.error report.error, session, server)
    | none => (.ok (), session, server)

instance : Backend Server Session where
  connect := connect
  delay := fun _ _ => 0
  execute := execute
  query := query
  ping := ping
  close := fun _ server => server

end Server
end Wire
end ScopedSql
