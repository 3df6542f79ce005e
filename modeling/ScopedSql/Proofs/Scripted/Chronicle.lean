import ScopedSql.Proofs.Scripted.Outcome
import ScopedSql.Proofs.World.Custody
import ScopedSql.Proofs.World.Image

namespace ScopedSql
namespace Scripted

/-!
# A chronicle of the server

The ledger has one list of the statements that were run and another of the sessions
that were closed, so it does not say which came first.  A chronicle of the server
tells both in one sequence.  It answers as the server does, and what is seen of it
without the sequence is the server itself.
-/

/-! ## What the ledger says of statements and their success -/

namespace Server

/-- What was run on each session, and whether the rules let it succeed. -/
def said (server : Server) : Said :=
  fun number => (server.log number).map
    (fun entry => (entry.sql, (server.rules.refusal? entry.sql).isNone))

theorem said_afterRun (server : Server) (session : Session) (sql : String) :
    (server.afterRun session sql).said =
      server.said.more session.number sql (server.rules.refusal? sql).isNone := by
  funext number
  have rules : (server.afterRun session sql).rules = server.rules := rfl
  rw [said, Said.more, rules]
  by_cases here : number = session.number
  · subst here
    rw [if_pos rfl, afterRun_log_self, List.map_append]
    rfl
  · rw [if_neg here, afterRun_log_of_ne server sql (Ne.symm here), List.append_nil]
    rfl

end Server

theorem Rules.count_isOk (rules : Rules) (sql : String) :
    (rules.count sql).isOk = (rules.refusal? sql).isNone := by
  rw [count, answer]
  cases rules.refusal? sql <;> rfl

theorem Rules.rows_isOk (rules : Rules) (sql : String) :
    (rules.rows sql).isOk = (rules.refusal? sql).isNone := by
  rw [rows, answer]
  cases rules.refusal? sql <;> rfl

/-! ## What was done, in order -/

/-- Something that is done with a session. -/
inductive Deed
  | said (entry : Entry)
  | closed (session : Nat)
  deriving DecidableEq, Repr

namespace Deed

def session : Deed -> Nat
  | .said entry => entry.session
  | .closed session => session

def entry? : Deed -> Option Entry
  | .said entry => some entry
  | .closed _ => none

def closing? : Deed -> Option Nat
  | .said _ => none
  | .closed session => some session

/-- Nothing is done with a session once it is closed, not even that it is closed again. -/
def Allows (first later : Deed) : Prop :=
  first.closing? ≠ some later.session

end Deed

/-- A server and what was done with its sessions, in order. -/
structure Chronicle where
  server : Server
  deeds : List Deed

namespace Chronicle

def say (chronicle : Chronicle) (session : Session) (sql : String) (server : Server) : Chronicle :=
  ⟨server, chronicle.deeds ++ [.said (session.entry sql)]⟩

instance : Backend Chronicle Session where
  connect target chronicle :=
    let (result, server) := chronicle.server.connect target
    (result, { chronicle with server })
  delay sql chronicle := chronicle.server.delay sql
  execute sql session chronicle :=
    let (result, after, server) := chronicle.server.execute sql session
    (result, after, chronicle.say session sql server)
  query sql session chronicle :=
    let (result, after, server) := chronicle.server.query sql session
    (result, after, chronicle.say session sql server)
  ping session chronicle :=
    let (result, after, server) := chronicle.server.ping session
    (result, after, { chronicle with server })
  close session chronicle :=
    ⟨chronicle.server.close session, chronicle.deeds ++ [.closed session.number]⟩

/-- A chronicle answers as its server does. -/
theorem seen : Backend.Seen Chronicle.server :=
  { connect := fun _ _ => rfl, delay := fun _ _ => rfl, execute := fun _ _ _ => rfl,
    query := fun _ _ _ => rfl, ping := fun _ _ => rfl, close := fun _ _ => rfl }

/-- The chronicle tells what the ledger says, no session is touched after it was closed, and the
sessions that are out are those that were opened and not closed. -/
structure Tells (out : List Nat) (chronicle : Chronicle) : Prop where
  entries : chronicle.server.ledger.entries = chronicle.deeds.filterMap Deed.entry?
  closed : chronicle.server.ledger.closed = chronicle.deeds.filterMap Deed.closing?
  last : chronicle.deeds.Pairwise Deed.Allows
  known : forall entry, entry ∈ chronicle.server.ledger.entries ->
    entry.session ≤ chronicle.server.ledger.opened
  opened : (out ++ chronicle.server.ledger.closed).Perm
    (List.range' 1 chronicle.server.ledger.opened)

variable {out : List Nat} {chronicle : Chronicle} {session : Session}

/-- Each session is out or closed, and only once. -/
theorem Tells.nodup (tells : Tells out chronicle) :
    (out ++ chronicle.server.ledger.closed).Nodup :=
  tells.opened.nodup_iff.mpr List.nodup_range'

/-- Nothing was run on a session that is not open yet. -/
theorem Tells.said_next (tells : Tells out chronicle) :
    chronicle.server.said (chronicle.server.ledger.opened + 1) = [] := by
  have none : chronicle.server.log (chronicle.server.ledger.opened + 1) = [] := by
    apply List.filter_eq_nil_iff.mpr
    intro entry member same
    have known := tells.known entry member
    rw [of_decide_eq_true same] at known
    exact absurd known (Nat.not_succ_le_self _)
  rw [Server.said, none, List.map_nil]

/-- What is done with a session that is out comes after no closing of it. -/
theorem Tells.allowed (tells : Tells out chronicle) (known : session.number ∈ out) {deed : Deed}
    (own : deed.session = session.number) :
    (chronicle.deeds ++ [deed]).Pairwise Deed.Allows := by
  apply List.pairwise_append.mpr
  refine ⟨tells.last, List.pairwise_singleton _ _, ?_⟩
  intro first member later single
  rw [List.mem_singleton.mp single, Deed.Allows, own]
  intro closing
  have closed : session.number ∈ chronicle.server.ledger.closed := by
    rw [tells.closed]
    exact List.mem_filterMap.mpr ⟨first, member, closing⟩
  exact (List.nodup_append.mp tells.nodup).2.2 _ known _ closed rfl

theorem Tells.say (tells : Tells out chronicle) (known : session.number ∈ out) (sql : String) :
    Tells out (chronicle.say session sql (chronicle.server.afterRun session sql)) where
  entries := by
    rw [Chronicle.say, List.filterMap_append, ← tells.entries]
    rfl
  closed := by
    rw [Chronicle.say, List.filterMap_append, ← tells.closed]
    exact (List.append_nil _).symm
  last := tells.allowed known rfl
  known := by
    intro entry member
    rcases List.mem_append.mp member with before | new
    · exact tells.known entry before
    · rw [List.mem_singleton.mp new]
      have range := tells.opened.subset (List.mem_append_left _ known)
      rw [List.mem_range'_1] at range
      exact Nat.lt_one_add_iff.mp range.2
  opened := tells.opened

theorem Tells.close (tells : Tells (session.number :: out) chronicle) :
    Tells out ⟨chronicle.server.close session, chronicle.deeds ++ [.closed session.number]⟩ where
  entries := by
    rw [List.filterMap_append, ← tells.entries]
    exact (List.append_nil _).symm
  closed := by
    rw [List.filterMap_append, ← tells.closed]
    rfl
  last := tells.allowed List.mem_cons_self rfl
  known := tells.known
  opened := by
    have moved : (out ++ (chronicle.server.ledger.closed ++ [session.number])).Perm
        (session.number :: out ++ chronicle.server.ledger.closed) := by
      rw [← List.append_assoc]
      exact List.perm_append_comm
    exact moved.trans tells.opened

theorem Tells.enter (tells : Tells out chronicle) :
    Tells ((chronicle.server.ledger.opened + 1) :: out)
      { chronicle with server := chronicle.server.afterOpen } where
  entries := tells.entries
  closed := tells.closed
  last := tells.last
  known := fun entry member => Nat.le_succ_of_le (tells.known entry member)
  opened := by
    have last : List.range' 1 (chronicle.server.ledger.opened + 1) =
        List.range' 1 chronicle.server.ledger.opened ++ [chronicle.server.ledger.opened + 1] := by
      rw [List.range'_concat, Nat.one_mul, Nat.add_comm 1]
    exact (tells.opened.cons _).trans (last ▸ (List.perm_append_singleton _ _).symm)

/-- The sessions that are out are known from the chronicle, and so is what was run on them. -/
def custody (asks : List String -> Prop) : Custody Chronicle Session where
  number := Session.number
  Out := Tells
  said chronicle := chronicle.server.said
  asks := asks
  perm same tells :=
    { tells with opened := (same.symm.append_right _).trans tells.opened }
  nodup tells := (List.nodup_append.mp tells.nodup).1
  connect := by
    intro out chronicle target tells
    rcases Server.connect_eq target chronicle.server with ⟨e, failed⟩ | opened
    · simp only [Backend.connect, failed]
      exact tells
    · simp only [Backend.connect, opened]
      exact tells.enter
  execute := by
    intro out chronicle session sql tells known
    simp only [Backend.execute, Server.execute_eq]
    exact tells.say known sql
  query := by
    intro out chronicle session sql tells known
    simp only [Backend.query, Server.query_eq]
    exact tells.say known sql
  ping := by
    intro out chronicle session tells known
    simp only [Backend.ping, Server.ping]
    split <;> exact tells
  close := Tells.close
  fresh := by
    intro out chronicle chronicle' target session tells opens
    rcases Server.connect_eq target chronicle.server with ⟨e, failed⟩ | opened
    · simp only [Backend.connect, failed] at opens
      cases opens
    · simp only [Backend.connect, opened] at opens
      cases opens
      exact tells.said_next
  connect_said target chronicle := by
    rcases Server.connect_eq target chronicle.server with ⟨e, failed⟩ | opened
    · simp only [Backend.connect, failed]
    · simp only [Backend.connect, opened]
      rfl
  execute_said sql session chronicle := by
    simp only [Backend.execute, Server.execute_eq, Rules.count_isOk]
    exact Server.said_afterRun chronicle.server session sql
  query_said sql session chronicle := by
    simp only [Backend.query, Server.query_eq, Rules.rows_isOk]
    exact Server.said_afterRun chronicle.server session sql
  ping_said session chronicle := by
    simp only [Backend.ping, Server.ping]
    split <;> rfl
  close_said _ _ := rfl
  execute_number sql session chronicle := by
    simp only [Backend.execute, Server.execute_eq, Rules.move_number]
  query_number sql session chronicle := by
    simp only [Backend.query, Server.query_eq, Rules.move_number]
  ping_number session chronicle := by
    simp only [Backend.ping, Server.ping]
    split <;> rfl

/-- A chronicle of a server on which nothing happened. -/
def ofRules (rules : Rules) : Chronicle := ⟨⟨rules, Ledger.empty⟩, []⟩

theorem tells_ofRules (rules : Rules) : Tells [] (ofRules rules) :=
  ⟨rfl, rfl, List.Pairwise.nil, fun _ member => (nomatch member), List.Perm.refl _⟩

end Chronicle
end Scripted
end ScopedSql
