import ScopedSql.Scripted.Server

namespace ScopedSql
namespace Scripted

/-!
# What a statement does

Whether a statement fails follows from the rules and its text alone.  What it
does to its session follows from the session and the text, so the present state
of a session is the replay of the statements that were run on it, and the places
at which the ledger notes them are those that the replay passes through.  What
the ledger says of one session changes only when a statement is run on it or
when it is closed.
-/

/-- Why a statement fails under the rules, if it does. -/
@[irreducible] def Rules.refusal? (rules : Rules) (sql : String) : Option Error :=
  match ruleFor? sql rules.failures with
  | some text => some (.reported text)
  | none =>
    match Control.read sql with
    | .use name =>
      if Server.isKnown name rules.databases then none
      else some (.reported ("database not found: " ++ name))
    | .checkout name =>
      if Server.isKnown name rules.branches then none
      else some (.reported ("branch not found: " ++ name))
    | _ => none

/-- A statement fails with a text that the server words. -/
theorem Rules.refusal?_eq_some {rules : Rules} {sql : String} {e : Error}
    (refused : rules.refusal? sql = some e) : exists text, e = .reported text := by
  unfold Rules.refusal? at refused
  repeat' split at refused
  all_goals
    cases refused
    try exact ⟨_, rfl⟩

/-- A statement that neither begins nor ends a transaction. -/
structure Plain (sql : String) : Prop where
  noBegin : Control.read sql ≠ .begin
  noCommit : Control.read sql ≠ .commit
  noRollback : Control.read sql ≠ .rollback

instance (sql : String) : Decidable (Plain sql) :=
  decidable_of_iff
    (Control.read sql ≠ .begin ∧ Control.read sql ≠ .commit ∧ Control.read sql ≠ .rollback)
    ⟨fun ⟨begin, commit, rollback⟩ => ⟨begin, commit, rollback⟩,
      fun plain => ⟨plain.noBegin, plain.noCommit, plain.noRollback⟩⟩

/-- Does the statement move its session to a database or a branch? -/
def Control.moves : Control -> Bool
  | .use _ => true
  | .checkout _ => true
  | _ => false

/-- A plain statement that moves its session nowhere is work. -/
theorem Plain.read_eq_work_iff {sql : String} (plain : Plain sql) :
    Control.read sql = .work ↔ (Control.read sql).moves = false := by
  cases read : Control.read sql with
  | begin => exact absurd read plain.noBegin
  | commit => exact absurd read plain.noCommit
  | rollback => exact absurd read plain.noRollback
  | use name => simp [Control.moves]
  | checkout name => simp [Control.moves]
  | work => simp [Control.moves]

/-- A statement that succeeds and whose work a commit will keep. -/
def Rules.keeps (rules : Rules) (sql : String) : Bool :=
  (rules.refusal? sql).isNone && decide (Control.read sql = .work)

namespace Session

/-- A session that was just opened. -/
def fresh (number : Nat) : Session :=
  { number, database := none, branch := none, pending := [] }

/-- What the ledger notes of a statement on the session. -/
def entry (session : Session) (sql : String) : Entry :=
  { session := session.number, database := session.database, branch := session.branch, sql }

/-- The session after a statement that succeeds. -/
@[irreducible] def follow (session : Session) (sql : String) : Session :=
  match Control.read sql with
  | .begin | .commit | .rollback => { session with pending := [] }
  | .use name => { session with database := some name, branch := none }
  | .checkout name => { session with branch := some name }
  | .work => { session with pending := session.pending ++ [sql] }

@[simp] theorem follow_number (session : Session) (sql : String) :
    (session.follow sql).number = session.number := by
  unfold follow
  split <;> rfl

end Session

namespace Rules

/-- The session after a statement, which may fail. -/
def move (rules : Rules) (session : Session) (sql : String) : Session :=
  if (rules.refusal? sql).isSome then session else session.follow sql

/-- The work that a statement makes durable. -/
def delivery (rules : Rules) (session : Session) (sql : String) : List String :=
  if (rules.refusal? sql).isNone ∧ Control.read sql = .commit then session.pending else []

/-- How long a statement takes. -/
def delay (rules : Rules) (sql : String) : Nat := (ruleFor? sql rules.delays).getD 0

/-- What the server answers to a statement. -/
def answer (rules : Rules) (sql : String) : Except Error (Option ResultSet) :=
  match rules.refusal? sql with
  | some e => .error e
  | none => .ok (ruleFor? sql rules.responses)

def count (rules : Rules) (sql : String) : Except Error Nat :=
  (rules.answer sql).map (fun answer => (answer.map ResultSet.affected).getD 0)

def rows (rules : Rules) (sql : String) : Except Error ResultSet :=
  (rules.answer sql).map (fun answer => answer.getD ResultSet.empty)

/-- The session after some statements. -/
def replay (rules : Rules) (session : Session) (sqls : List String) : Session :=
  sqls.foldl rules.move session

/-- What the ledger notes of some statements on a session. -/
def transcript (rules : Rules) : Session -> List String -> List Entry
  | _, [] => []
  | session, sql :: rest => session.entry sql :: rules.transcript (rules.move session sql) rest

/-- A statement is no commit that succeeds. -/
def Quiet (rules : Rules) (sql : String) : Prop :=
  rules.refusal? sql = none -> Control.read sql ≠ .commit

theorem delivery_of_quiet {rules : Rules} {sql : String} (quiet : rules.Quiet sql)
    (session : Session) : rules.delivery session sql = [] := by
  rw [delivery, if_neg]
  rintro ⟨accepted, commit⟩
  exact quiet (Option.isNone_iff_eq_none.mp accepted) commit

theorem quiet_of_refused {rules : Rules} {sql : String} {e : Error}
    (refused : rules.refusal? sql = some e) : rules.Quiet sql := by
  intro accepted
  rw [refused] at accepted
  cases accepted

theorem quiet_of_read {sql : String} {control : Control} (read : Control.read sql = control)
    (other : control ≠ .commit) (rules : Rules) : rules.Quiet sql := by
  intro _ commit
  exact other (read.symm.trans commit)

theorem move_of_accepted {rules : Rules} {sql : String} (accepted : rules.refusal? sql = none)
    (session : Session) : rules.move session sql = session.follow sql := by
  simp only [move, accepted, Option.isSome, Bool.false_eq_true, if_false]

theorem move_of_refused {rules : Rules} {sql : String} {e : Error}
    (refused : rules.refusal? sql = some e) (session : Session) :
    rules.move session sql = session := by
  simp only [move, refused, Option.isSome, if_true]

@[simp] theorem move_number (rules : Rules) (session : Session) (sql : String) :
    (rules.move session sql).number = session.number := by
  cases refused : rules.refusal? sql with
  | some e => rw [move_of_refused refused]
  | none => rw [move_of_accepted refused, Session.follow_number]

theorem replay_nil (rules : Rules) (session : Session) : rules.replay session [] = session := rfl

@[simp] theorem replay_cons (rules : Rules) (session : Session) (sql : String)
    (rest : List String) :
    rules.replay session (sql :: rest) = rules.replay (rules.move session sql) rest := rfl

theorem replay_append (rules : Rules) (session : Session) (before after : List String) :
    rules.replay session (before ++ after) = rules.replay (rules.replay session before) after :=
  List.foldl_append

@[simp] theorem replay_number (rules : Rules) (session : Session) (sqls : List String) :
    (rules.replay session sqls).number = session.number := by
  induction sqls generalizing session with
  | nil => rfl
  | cons sql rest inductionHypothesis =>
      rw [replay_cons, inductionHypothesis, move_number]

/-- The work that is not committed yet is that of the statements that succeeded. -/
theorem pending_replay {rules : Rules} {sqls : List String}
    (plain : forall sql, sql ∈ sqls -> Plain sql) (session : Session) :
    (rules.replay session sqls).pending = session.pending ++ sqls.filter rules.keeps := by
  induction sqls generalizing session with
  | nil => exact (List.append_nil _).symm
  | cons sql rest inductionHypothesis =>
      have step : (rules.move session sql).pending =
          session.pending ++ (if rules.keeps sql then [sql] else []) := by
        rcases plain sql List.mem_cons_self with ⟨noBegin, noCommit, noRollback⟩
        cases refused : rules.refusal? sql with
        | some e => simp [move_of_refused refused, keeps, refused]
        | none =>
            rw [move_of_accepted refused, Session.follow]
            split <;> rename_i read <;> simp_all [keeps]
      rw [replay_cons, inductionHypothesis
        (fun sql member => plain sql (List.mem_cons_of_mem _ member)), step, List.append_assoc,
        List.filter_cons]
      cases rules.keeps sql <;> rfl

theorem transcript_append (rules : Rules) (session : Session) (before after : List String) :
    rules.transcript session (before ++ after) =
      rules.transcript session before ++ rules.transcript (rules.replay session before) after := by
  induction before generalizing session with
  | nil => rfl
  | cons sql rest inductionHypothesis =>
      simp only [List.cons_append, transcript, replay_cons, inductionHypothesis]

/-- The texts of the entries are the statements themselves. -/
@[simp] theorem transcript_sql (rules : Rules) (session : Session) (sqls : List String) :
    (rules.transcript session sqls).map Entry.sql = sqls := by
  induction sqls generalizing session with
  | nil => rfl
  | cons sql rest inductionHypothesis =>
      rw [transcript, List.map_cons, inductionHypothesis]
      rfl

end Rules

namespace Server

/-- The server after a statement on a session, whatever comes of it. -/
def afterRun (server : Server) (session : Session) (sql : String) : Server :=
  { server with
    ledger :=
      { server.ledger with
        entries := server.ledger.entries ++ [session.entry sql]
        committed := server.ledger.committed ++ server.rules.delivery session sql } }

/-- Running a statement in one equation: its outcome and what it changes. -/
theorem run_eq (server : Server) (session : Session) (sql : String) :
    server.run sql session =
      (server.rules.answer sql, server.rules.move session sql, server.afterRun session sql) := by
  cases failed : ruleFor? sql server.rules.failures with
  | some text =>
      simp [run, note, afterRun, Rules.answer, Rules.refusal?, Rules.move, Rules.delivery,
        Session.entry, failed]
  | none =>
      cases read : Control.read sql with
      | use name =>
          by_cases known : isKnown name server.rules.databases <;>
            simp [run, note, follow, afterRun, Rules.answer, Rules.refusal?, Rules.move,
              Rules.delivery, Session.entry, Session.follow, failed, read, known]
      | checkout name =>
          by_cases known : isKnown name server.rules.branches <;>
            simp [run, note, follow, afterRun, Rules.answer, Rules.refusal?, Rules.move,
              Rules.delivery, Session.entry, Session.follow, failed, read, known]
      | _ =>
          simp [run, note, follow, afterRun, Rules.answer, Rules.refusal?, Rules.move,
            Rules.delivery, Session.entry, Session.follow, failed, read]

theorem execute_eq (server : Server) (session : Session) (sql : String) :
    server.execute sql session =
      (server.rules.count sql, server.rules.move session sql, server.afterRun session sql) := by
  rw [execute, run_eq]
  rfl

theorem query_eq (server : Server) (session : Session) (sql : String) :
    server.query sql session =
      (server.rules.rows sql, server.rules.move session sql, server.afterRun session sql) := by
  rw [query, run_eq]
  rfl

/-- The server after a session was opened. -/
def afterOpen (server : Server) : Server :=
  { server with ledger := { server.ledger with opened := server.ledger.opened + 1 } }

/-- Opening a session either fails and changes nothing, or gives the next number. -/
theorem connect_eq (target : Target) (server : Server) :
    (exists e, server.connect target = (.error e, server)) ∨
      server.connect target =
        (.ok (Session.fresh (server.ledger.opened + 1)), server.afterOpen) := by
  cases target with
  | network options parseTime => exact Or.inl ⟨_, rfl⟩
  | direct =>
      cases failure : server.rules.connectFailure with
      | some text => exact Or.inl ⟨.connection (.refused text), by simp [connect, failure]⟩
      | none => exact Or.inr (by simp [connect, failure, Session.fresh, afterOpen])

/-! ## What the ledger says of one session -/

/-- What was run on the session of a number. -/
def log (server : Server) (number : Nat) : List Entry :=
  server.ledger.entries.filter (fun entry => entry.session = number)

/-- How often the session of a number was closed. -/
def closings (server : Server) (number : Nat) : Nat :=
  server.ledger.closed.count number

variable (server : Server) (session : Session) (sql : String)

@[simp] theorem afterRun_committed : (server.afterRun session sql).ledger.committed =
    server.ledger.committed ++ server.rules.delivery session sql := rfl

@[simp] theorem afterRun_log_self : (server.afterRun session sql).log session.number =
    server.log session.number ++ [session.entry sql] := by
  simp [log, afterRun, Session.entry]

theorem afterRun_log_of_ne {session : Session} {number : Nat} (other : session.number ≠ number) :
    (server.afterRun session sql).log number = server.log number := by
  simp [log, afterRun, Session.entry, other]

@[simp] theorem close_committed :
    (server.close session).ledger.committed = server.ledger.committed := rfl

@[simp] theorem close_closings_self :
    (server.close session).closings session.number = server.closings session.number + 1 := by
  simp [closings, close]

theorem close_closings_of_ne {session : Session} {number : Nat}
    (other : session.number ≠ number) :
    (server.close session).closings number = server.closings number := by
  simp [closings, close, other]

end Server
end Scripted
end ScopedSql
