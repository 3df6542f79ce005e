import ScopedSql.Format.Render
import ScopedSql.Proofs.Scripted.Outcome
import ScopedSql.Wire.Server
import ScopedSql.World.Elapse

namespace ScopedSql

/-!
# Whose fault an error is

Some errors are found in what a caller gave: a configuration, a name, an
argument, a statement of the wrong kind.  The others come from the server, from
the end of a context, or from a result that does not fit.  Whatever works on
sessions fails with errors of the second sort only.
-/

variable {α β : Type}

/-- Is the error found in what the caller gave? -/
def Error.inInput : Error -> Bool
  | .noHost | .noUser | .noPort | .noDatabase | .config _ | .invalidName _ _ | .argument _ _
  | .unexpectedKind _ _ => true
  | _ => false

/-- If the result is an error, it is one of a certain sort. -/
def FailsBy (sort : Error -> Prop) (result : Except Error α) : Prop :=
  forall e, result = .error e -> sort e

/-- If the result is an error, it is not found in what the caller gave. -/
abbrev Sober (result : Except Error α) : Prop :=
  FailsBy (fun e => e.inInput = false) result

/-- If the result is an error, it is found in what the caller gave. -/
abbrev Blaming (result : Except Error α) : Prop :=
  FailsBy (fun e => e.inInput = true) result

namespace FailsBy

variable {sort : Error -> Prop}

theorem ok (value : α) : FailsBy sort (.ok value) :=
  fun _ failed => nomatch failed

theorem error {e : Error} (found : sort e) : FailsBy sort (.error e : Except Error α) := by
  rintro _ ⟨⟩
  exact found

theorem cause {e : Error} (fails : FailsBy sort (.error e : Except Error α)) : sort e :=
  fails e rfl

/-- An error that is passed on is still of its sort. -/
theorem pass {e : Error} (fails : FailsBy sort (.error e : Except Error α)) :
    FailsBy sort (.error e : Except Error β) :=
  error fails.cause

theorem mono {other : Error -> Prop} {result : Except Error α} (fails : FailsBy sort result)
    (wider : forall e, sort e -> other e) : FailsBy other result :=
  fun e failed => wider e (fails e failed)

theorem map {result : Except Error α} (fails : FailsBy sort result) (f : α -> β) :
    FailsBy sort (result.map f) := by
  cases result with
  | error e => exact fails.pass
  | ok value => exact ok _

theorem bind {result : Except Error α} {next : α -> Except Error β} (fails : FailsBy sort result)
    (onward : forall value, FailsBy sort (next value)) : FailsBy sort (result >>= next) := by
  cases result with
  | error e => exact fails.pass
  | ok value => exact onward value

theorem mapM {f : α -> Except Error β} (fails : forall value, FailsBy sort (f value))
    (values : List α) : FailsBy sort (values.mapM f) := by
  induction values with
  | nil => exact ok _
  | cons value rest inductionHypothesis =>
      rw [List.mapM_cons]
      exact (fails value).bind fun _ => inductionHypothesis.bind fun _ => ok _

theorem mapM_option {f : α -> Except Error β} (fails : forall value, FailsBy sort (f value))
    (given : Option α) : FailsBy sort (given.mapM f) := by
  cases given with
  | none => exact ok _
  | some value => exact (fails value).map some

theorem foldlM {f : β -> α -> Except Error β}
    (fails : forall sofar value, FailsBy sort (f sofar value))
    (start : β) (values : List α) : FailsBy sort (values.foldlM f start) := by
  induction values generalizing start with
  | nil => exact ok _
  | cons value rest inductionHypothesis =>
      rw [List.foldlM_cons]
      exact (fails start value).bind fun next => inductionHypothesis next

end FailsBy

/-! ## Results as texts -/

/-- Does the error say that a row does not fit its columns? -/
def Error.isMisfit : Error -> Bool
  | .missingColumn _ => true
  | .execution (.rowColumns _ _) => true
  | _ => false

theorem Error.not_inInput_of_isMisfit {e : Error} (misfit : e.isMisfit = true) :
    e.inInput = false := by
  cases e with
  | missingColumn column => rfl
  | execution fault => rfl
  | _ => cases misfit

theorem Format.rowFields_misfit (declared : List String) (row : Row) :
    FailsBy (fun e => e.isMisfit = true) (rowFields declared row) := by
  have fields : forall names values,
      FailsBy (fun e => e.isMisfit = true) (fieldsOf declared names values) := by
    induction declared with
    | nil => exact fun _ _ => .ok _
    | cons column rest inductionHypothesis =>
        intro names values
        rcases names with _ | ⟨name, names⟩
        · exact .error rfl
        · rcases values with _ | ⟨value, values⟩
          · exact .error rfl
          · rw [fieldsOf]
            split
            · exact (inductionHypothesis names values).map _
            · exact .error rfl
  rw [rowFields]
  split
  · exact .error rfl
  · exact fields row.columns row.values

/-- A result is a text unless one of its rows does not fit. -/
theorem ResultSet.render_misfit (set : ResultSet) (format : Format) :
    FailsBy (fun e => e.isMisfit = true) (set.render format) := by
  have rows := FailsBy.mapM (Format.rowFields_misfit set.columns) set.rows
  cases format with
  | csv =>
      rw [render, Csv.write]
      split
      · exact .ok _
      · exact rows.bind fun _ => .ok _
  | markdown =>
      rw [render, Markdown.write]
      split
      · exact .ok _
      · exact rows.bind fun _ => .ok _

theorem ResultSet.render_sober (set : ResultSet) (format : Format) : Sober (set.render format) :=
  (set.render_misfit format).mono fun _ => Error.not_inInput_of_isMisfit

/-! ## Servers -/

/-- Servers of a kind fail for reasons of their own. -/
structure Backend.Sober (σ κ : Type) [Backend σ κ] : Prop where
  connect : forall (target : Target) (server : σ),
    ScopedSql.Sober (Backend.connect target server).1
  execute : forall (sql : String) (session : κ) (server : σ),
    ScopedSql.Sober (Backend.execute sql session server).1
  query : forall (sql : String) (session : κ) (server : σ),
    ScopedSql.Sober (Backend.query sql session server).1
  ping : forall (session : κ) (server : σ), ScopedSql.Sober (Backend.ping session server).1

/-- If the result is an error, it has a text that the server words. -/
abbrev Reported (result : Except Error α) : Prop :=
  FailsBy (fun e => exists text, e = .reported text) result

theorem Scripted.Rules.answer_reported (rules : Rules) (sql : String) :
    Reported (rules.answer sql) := by
  rw [answer]
  split
  · exact .error (refusal?_eq_some ‹_›)
  · exact .ok _

theorem Scripted.Rules.count_reported (rules : Rules) (sql : String) : Reported (rules.count sql) :=
  (rules.answer_reported sql).map _

theorem Scripted.Rules.rows_reported (rules : Rules) (sql : String) : Reported (rules.rows sql) :=
  (rules.answer_reported sql).map _

theorem Error.not_inInput_of_reported {e : Error} (reported : exists text, e = .reported text) :
    e.inInput = false := by
  rcases reported with ⟨text, rfl⟩
  rfl

/-- A server in memory fails with the texts of its script. -/
theorem Scripted.sober : Backend.Sober Server Session where
  connect := by
    intro target server
    cases target with
    | network options parseTime => exact .error rfl
    | direct =>
        simp only [Backend.connect, Server.connect]
        split
        · exact .error rfl
        · exact .ok _
  execute := by
    intro sql session server
    simp only [Backend.execute, Server.execute_eq]
    exact (server.rules.count_reported sql).mono fun _ => Error.not_inInput_of_reported
  query := by
    intro sql session server
    simp only [Backend.query, Server.query_eq]
    exact (server.rules.rows_reported sql).mono fun _ => Error.not_inInput_of_reported
  ping := by
    intro session server
    simp only [Backend.ping, Server.ping]
    split
    · exact .error rfl
    · exact .ok _

theorem Wire.gather_sober (sofar : Outcome) (replies : List Reply) :
    Sober (gather sofar replies).1 := by
  induction replies generalizing sofar with
  | nil => exact .ok _
  | cons reply rest inductionHypothesis =>
      cases reply with
      | affected n => exact inductionHypothesis _
      | rows lines => exact inductionHypothesis _
      | fault report => exact .error rfl
      | disconnect => exact .error rfl

theorem Wire.collect_sober (parseTime : Bool) (fallback : List String) (lines : List Line) :
    Sober (collect parseTime fallback lines) := by
  apply FailsBy.foldlM
  intro set line
  rw [addLine]
  split
  · rw [ResultSet.addValues]
    split
    · exact .ok _
    · exact .error rfl
  · exact .error rfl

theorem Wire.Server.send_sober (sql : String) (session : Session) (server : Server) :
    Sober (server.send sql session).1 := by
  rw [send]
  split
  · exact .error rfl
  · exact gather_sober _ _

/-- A server on the network fails with its reports, or because it was lost. -/
theorem Wire.sober : Backend.Sober Server Session where
  connect := by
    intro target server
    simp only [Backend.connect, Server.connect]
    split
    · split
      · exact .error rfl
      · exact .ok _
    · exact .error rfl
  execute := fun sql session server => (server.send_sober sql session).map _
  query := by
    intro sql session server
    have sent := server.send_sober sql session
    simp only [Backend.query, Server.query]
    generalize server.send sql session = answer at sent ⊢
    rcases answer with ⟨e | outcome, session', server'⟩
    · exact sent.pass
    · simp only
      split
      · exact collect_sober _ _ _
      · exact collect_sober _ _ _
  ping := by
    intro session server
    simp only [Backend.ping, Server.ping]
    split
    · exact .error rfl
    · split
      · exact .error rfl
      · exact .ok _

/-! ## Worlds -/

/-- The error says that an operation was cut off by the end of its context. -/
def Error.Interrupts (operation : String) (e : Error) : Prop :=
  e = .cancelled operation ∨ e = .timedOut operation

theorem Error.not_inInput_of_interrupts {operation : String} {e : Error}
    (cause : e.Interrupts operation) : e.inInput = false := by
  rcases cause with rfl | rfl <;> rfl

namespace World

variable {σ κ : Type} [Backend σ κ]

/-- Only the end of the context cuts a wait off. -/
theorem await_fails (w : World σ κ) (context : Context) (operation : String) (time : Nat) :
    FailsBy (Error.Interrupts operation) (w.await context operation time).1 := by
  rw [await]
  split
  · exact .error (Or.inl rfl)
  · split
    · exact .ok ()
    · simp only
      split
      · exact .error (Or.inl rfl)
      · split
        · exact .error (Or.inr rfl)
        · exact .ok ()

theorem await_sober (w : World σ κ) (context : Context) (operation : String) (time : Nat) :
    Sober (w.await context operation time).1 :=
  (w.await_fails context operation time).mono fun _ => Error.not_inInput_of_interrupts

variable (sober : Backend.Sober σ κ) (w : World σ κ) (context : Context)
include sober

theorem executeIn_sober (operation sql : String) (session : κ) :
    Sober (w.executeIn context operation sql session).1 := by
  have waited := w.await_sober context operation (w.delay sql)
  rw [executeIn]
  generalize w.await context operation (w.delay sql) = answer at waited ⊢
  rcases answer with ⟨e | _, w'⟩
  · exact waited.pass
  · exact sober.execute sql session w'.server

theorem queryIn_sober (operation sql : String) (session : κ) :
    Sober (w.queryIn context operation sql session).1 := by
  have waited := w.await_sober context operation (w.delay sql)
  rw [queryIn]
  generalize w.await context operation (w.delay sql) = answer at waited ⊢
  rcases answer with ⟨e | _, w'⟩
  · exact waited.pass
  · exact sober.query sql session w'.server

theorem connectIn_sober (target : Target) : Sober (w.connectIn context target).1 := by
  have waited := w.await_sober context "connect" 0
  rw [connectIn]
  generalize w.await context "connect" 0 = answer at waited ⊢
  rcases answer with ⟨e | _, w'⟩
  · exact waited.pass
  · exact sober.connect target w'.server

theorem pingIn_sober (session : κ) : Sober (w.pingIn context session).1 := by
  have waited := w.await_sober context "ping" 0
  rw [pingIn]
  generalize w.await context "ping" 0 = answer at waited ⊢
  rcases answer with ⟨e | _, w'⟩
  · exact waited.pass
  · exact sober.ping session w'.server

end World
end ScopedSql
