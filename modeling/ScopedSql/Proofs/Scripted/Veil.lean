import ScopedSql.Proofs.Scripted.Outcome
import ScopedSql.Proofs.World.Image

namespace ScopedSql
namespace Scripted

/-!
# A server with some sessions out of sight

Of a server that is veiled, everything shows but what is done with some sessions and
what has been committed.  None of that decides what the server answers.  So what is
done out of sight does not show, and the rest goes on as if it had not been done.
-/

/-- The ledger without what is said of some sessions and without the committed work. -/
def Ledger.veil (hidden : List Nat) (ledger : Ledger) : Ledger :=
  { entries := ledger.entries.filter (fun entry => entry.session ∉ hidden)
    committed := []
    opened := ledger.opened
    closed := ledger.closed.filter (fun number => number ∉ hidden) }

def Server.veil (hidden : List Nat) (server : Server) : Server :=
  { server with ledger := server.ledger.veil hidden }

/-- A server of which some sessions are out of sight. -/
structure Veiled (hidden : List Nat) where
  server : Server

namespace Veiled

variable (hidden : List Nat)

/-- What shows of a server. -/
def see (server : Server) : Veiled hidden := ⟨server.veil hidden⟩

instance : Backend (Veiled hidden) Session where
  connect target veiled :=
    let (result, server) := veiled.server.connect target
    (result, see hidden server)
  delay sql veiled := veiled.server.delay sql
  execute sql session veiled :=
    let (result, after, server) := veiled.server.execute sql session
    (result, after, see hidden server)
  query sql session veiled :=
    let (result, after, server) := veiled.server.query sql session
    (result, after, see hidden server)
  ping session veiled :=
    let (result, after, server) := veiled.server.ping session
    (result, after, see hidden server)
  close session veiled := see hidden (veiled.server.close session)

theorem see_veil (server : Server) : see hidden (server.veil hidden) = see hidden server := by
  simp [see, Server.veil, Ledger.veil, List.filter_filter]

theorem see_afterRun (server : Server) (session : Session) (sql : String) :
    see hidden ((server.veil hidden).afterRun session sql) =
      see hidden (server.afterRun session sql) := by
  simp [see, Server.veil, Ledger.veil, Server.afterRun, List.filter_append, List.filter_filter]

/-- A server answers as what shows of it does. -/
theorem seen : Backend.Seen (see hidden) where
  connect := by
    intro target server
    cases target with
    | network options parseTime => exact congrArg (Prod.mk _) (see_veil hidden server)
    | direct =>
        have rules : (see hidden server).server.rules = server.rules := rfl
        simp only [Backend.connect, Server.connect, rules]
        cases server.rules.connectFailure with
        | some text => exact congrArg (Prod.mk _) (see_veil hidden server)
        | none => exact congrArg (Prod.mk _) (see_veil hidden server.afterOpen)
  delay := fun _ _ => rfl
  execute := by
    intro sql session server
    simp only [Backend.execute, Server.execute_eq]
    exact congrArg (fun veiled => (_, _, veiled)) (see_afterRun hidden server session sql)
  query := by
    intro sql session server
    simp only [Backend.query, Server.query_eq]
    exact congrArg (fun veiled => (_, _, veiled)) (see_afterRun hidden server session sql)
  ping := by
    intro session server
    have rules : (see hidden server).server.rules = server.rules := rfl
    simp only [Backend.ping, Server.ping, rules]
    cases server.rules.pingFailure <;>
      exact congrArg (fun veiled => (_, _, veiled)) (see_veil hidden server)
  close := by
    intro session server
    simp [Backend.close, see, Server.close, Server.veil, Ledger.veil, List.filter_append,
      List.filter_filter]

variable {hidden} {session : Session}

/-- What is run on a session that is out of sight does not show. -/
theorem see_afterRun_hidden (member : session.number ∈ hidden) (server : Server) (sql : String) :
    see hidden (server.afterRun session sql) = see hidden server := by
  simp [see, Server.veil, Ledger.veil, Server.afterRun, List.filter_append, Session.entry, member]

theorem see_close_hidden (member : session.number ∈ hidden) (server : Server) :
    see hidden (server.close session) = see hidden server := by
  simp [see, Server.veil, Ledger.veil, Server.close, List.filter_append, member]

/-- Of a session that is not out of sight everything shows. -/
theorem log_of_see {server server' : Server} (same : see hidden server = see hidden server')
    {number : Nat} (shows : number ∉ hidden) :
    server.log number = server'.log number ∧ server.closings number = server'.closings number := by
  have entries : (server.veil hidden).log number = (server'.veil hidden).log number :=
    congrArg (fun veiled => veiled.server.log number) same
  have closed : (server.veil hidden).closings number = (server'.veil hidden).closings number :=
    congrArg (fun veiled => veiled.server.closings number) same
  have log : forall server : Server, (server.veil hidden).log number = server.log number := by
    intro server
    rw [Server.log, Server.log, Server.veil, Ledger.veil, List.filter_filter]
    apply List.filter_congr
    intro entry _
    by_cases here : entry.session = number
    · simp [here, shows]
    · simp [here]
  have closings : forall server : Server,
      (server.veil hidden).closings number = server.closings number := by
    intro server
    exact List.count_filter (decide_eq_true shows)
  exact ⟨(log server).symm.trans (entries.trans (log server')),
    (closings server).symm.trans (closed.trans (closings server'))⟩

theorem opened_of_see {server server' : Server} (same : see hidden server = see hidden server') :
    server.ledger.opened = server'.ledger.opened :=
  congrArg (fun veiled => veiled.server.ledger.opened) same

end Veiled
end Scripted
end ScopedSql
