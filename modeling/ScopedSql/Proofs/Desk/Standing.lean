import ScopedSql.Proofs.Desk.Record
import ScopedSql.Proofs.Transaction.Books

namespace ScopedSql

open Scripted World

/-!
# What transactions do keeps the books in order

Each operation on a transaction, with what the history tells of it, leads from
books that are in order to books that are in order, whatever its context is and
whatever comes of it.
-/

variable {rules : Rules} {plain : Prop} {origin w w' : World Server Session} {session : Session}
  {held rest : List Session} {history : History} {tx : Transaction Session}

/-- The books are in order, and no session is being opened in the background. -/
structure Standing (origin : World Server Session) (rules : Rules) (plain : Prop)
    (held : List Session) (history : History) (w : World Server Session) : Prop where
  books : Books origin rules plain held history w
  tame : Tame (rules.licence plain).shut w

/-- The sessions of a transaction: one while it is live, none when it has ended. -/
def Transaction.sessions (tx : Transaction Session) : List Session :=
  match tx.phase with
  | .live session => [session]
  | .ended _ => []

theorem Transaction.sessions_of_live (live : tx.phase = .live session) :
    tx.sessions = [session] := by
  rw [sessions, live]

theorem Transaction.sessions_of_ended {ending : Ending} (ended : tx.phase = .ended ending) :
    tx.sessions = [] := by
  rw [sessions, ended]

/-- A transaction before and after something that a history tells of it: it keeps its scope and
its session, and it has ended only as the history tells. -/
structure Transaction.Continues (before after : Transaction Session) (events : History) :
    Prop where
  scope : after.scope = before.scope
  live : forall session', after.phase = .live session' ->
    exists session, before.phase = .live session ∧ session'.number = session.number
  ended : forall ending : Ending, after.phase = .ended ending -> before.phase = .ended ending ∨
    exists session, before.phase = .live session ∧
      Event.ceased session.number ending.fate ∈ events

theorem Transaction.Continues.refl (tx : Transaction Session) (events : History) :
    tx.Continues tx events :=
  ⟨rfl, fun session live => ⟨session, live, rfl⟩, fun _ ended => Or.inl ended⟩

/-- A transaction that is live on its session goes on. -/
theorem Transaction.Continues.ofLive {session' : Session} (live : tx.phase = .live session)
    (same : session'.number = session.number) (events : History) :
    tx.Continues (tx.withSession session') events := by
  refine ⟨rfl, ?_, fun _ ended => nomatch ended⟩
  intro other live'
  cases live'
  exact ⟨session, live, same⟩

/-- A transaction that was live has ended. -/
theorem Transaction.Continues.ofEnding (live : tx.phase = .live session) (ending : Ending) :
    tx.Continues (tx.ending ending) (tx.change (tx.ending ending)) := by
  refine ⟨rfl, fun session live => (nomatch live), ?_⟩
  intro other ended
  cases ended
  refine Or.inr ⟨session, live, ?_⟩
  rw [change, live]
  exact List.mem_cons_self

/-- An error that interrupts an operation is one. -/
theorem Error.isInterruption_of_interrupts {operation : String} {e : Error}
    (cause : e.Interrupts operation) : e.isInterruption = true := by
  rcases cause with rfl | rfl <;> rfl

/-- What the server refuses is not cut off. -/
theorem Error.isInterruption_of_reported {e : Error} (reported : exists text, e = .reported text) :
    e.isInterruption = false := by
  rcases reported with ⟨text, rfl⟩
  rfl

/-- For the end of a transaction it matters only whether the work on it succeeded. -/
theorem Transaction.finish_of_isOk {σ κ α β : Type} [Backend σ κ] {one : Except Error α}
    {other : Except Error β} (same : one.isOk = other.isOk) (tx : Transaction κ)
    (context : Context) (w : World σ κ) :
    (tx.finish context one w).2 = (tx.finish context other w).2 := by
  cases one with
  | error e =>
      cases other with
      | error e' => rfl
      | ok value => cases same
  | ok value =>
      cases other with
      | error e => cases same
      | ok value' =>
          rw [finish, finish]
          rcases tx.commit context w with ⟨e | _, after, w'⟩ <;> rfl

namespace Standing

theorem perm (standing : Standing origin rules plain held history w) {held' : List Session}
    (same : held'.Perm held) : Standing origin rules plain held' history w :=
  ⟨standing.books.perm same, standing.tame⟩

/-- What others may do while the desk is quiet, they may do at any time. -/
theorem conduct (standing : Standing origin rules plain held history w)
    (passage : Passage (rules.licence plain).shut before w after w') :
    Circulation.Conduct (rules.licence plain) (w.circulation before) (w'.circulation after) :=
  (passage.conduct standing.tame).within (Licence.shut_within _)

/-- What others do leaves the books in order. -/
theorem pass (standing : Standing origin rules plain held history w)
    (passage : Passage (rules.licence plain).shut [] w [] w') :
    Standing origin rules plain held history w' :=
  ⟨standing.books.pass (standing.conduct passage), passage.tame standing.tame⟩

theorem fits (standing : Standing origin rules plain held history w) :
    (rules.licence plain).shut.Fits w.server.rules :=
  standing.books.sameRules ▸ rules.shut_licence_fits plain

theorem attempt (standing : Standing origin rules plain (session :: rest) history w) {α : Type}
    {operation sql : String} {answer : Except Error α × Session × World Server Session}
    (attempt : Attempt (rules.licence plain).shut operation sql session w answer)
    (plainly : plain -> Plain sql) :
    answer.2.1.number = session.number ∧
      Standing origin rules plain (answer.2.1 :: rest)
        (history ++ Event.ofResult session.number sql answer.1) answer.2.2 := by
  rcases standing.books.life_of_held List.mem_cons_self with ⟨life, regular, told, fate, owned⟩
  have speaks : (rules.licence plain).shut.speaks sql := by
    intro isPlain _
    exact (plainly isPlain).noCommit
  have same := standing.books.sameRules
  have spoken : forall {session' : Session} {w' : World Server Session},
      Passage (rules.licence plain).shut [session] w [session'] w' ->
      Owned session.number (life.texts ++ [sql]) session' w' ->
      Standing origin rules plain (session' :: rest)
        (history ++ [.spoke session.number sql (rules.refusal? sql).isNone]) w' := by
    intro session' w' passed owned'
    have here : forall event,
        event ∈ [Event.spoke session.number sql (rules.refusal? sql).isNone] ->
        event.session = session.number := by
      exact List.forall_mem_singleton.mpr rfl
    refine ⟨standing.books.goOn (standing.conduct passed) owned.absent.opened here
      (regular.speak plainly) ?_ fate ?_, passed.tame standing.tame⟩
    · rw [History.of_append, told, History.of_self here, Life.events_speak fate]
    · rw [Life.texts_speak]
      exact owned'
  have outcome := attempt.owning standing.tame speaks owned
  cases outcome with
  | @cut e w' cause passed owned' =>
      rw [Event.ofResult, if_pos (Error.isInterruption_of_interrupts cause)]
      -- What is cut off was not run, and the history does not tell of it either.
      refine ⟨rfl, standing.books.goOn (standing.conduct passed) owned.absent.opened
        (fun _ member => absurd member List.not_mem_nil) regular ?_ fate owned',
        passed.tame standing.tame⟩
      rw [List.append_nil, told]
  | @refused e w' refused passed owned' =>
      rw [same] at refused
      have next := spoken passed owned'
      rw [refused] at next
      rw [Event.ofResult, Error.isInterruption_of_reported (Rules.refusal?_eq_some refused),
        if_neg Bool.false_ne_true]
      exact ⟨rfl, next⟩
  | @done value session' w' accepted passed owned' =>
      rw [same] at accepted
      have next := spoken passed owned'
      rw [accepted] at next
      exact ⟨owned'.number_eq, next⟩

theorem rollback (standing : Standing origin rules plain (session :: rest) history w)
    (live : tx.phase = .live session) :
    exists result w', tx.rollback w = (result, tx.ending .rolledBack, w') ∧
      Standing origin rules plain rest (history ++ [.ceased session.number .rolledBack]) w' := by
  rcases standing.books.life_of_held List.mem_cons_self with ⟨life, regular, told, fate, owned⟩
  rcases Transaction.rollback_of_live tx standing.tame standing.fits owned live
    with ⟨result, w', rolled, passed, spent⟩
  refine ⟨result, w', rolled, standing.books.rolledBack regular told fate owned.absent.opened
    (standing.conduct passed)
    (.rolledBack (Transaction.farewell_cases w)) spent, passed.tame standing.tame⟩

theorem commit (standing : Standing origin rules plain (session :: rest) history w)
    (live : tx.phase = .live session) (context : Context) :
    exists result ending w', tx.commit context w = (result, tx.ending ending, w') ∧
      Standing origin rules plain rest (history ++ [.ceased session.number ending.fate]) w' ∧
        (result = .ok () ↔ ending = .committed) := by
  rcases standing.books.life_of_held List.mem_cons_self with ⟨life, regular, told, fate, owned⟩
  have same := standing.books.sameRules
  have outcome := Transaction.commit_of_live standing.tame standing.fits owned live context
  generalize tx.commit context w = answer at outcome ⊢
  cases outcome with
  | @committed w' passed accepted owned' =>
      have conduct := standing.conduct (passed.lift [session])
      have tame := passed.tame standing.tame
      exact ⟨_, .committed, _, rfl, ⟨standing.books.committed regular told fate
        owned.absent.opened (same ▸ accepted) conduct owned',
        ⟨tame.ordered, tame.spoken, tame.prompt⟩⟩, by simp⟩
  | @refused e w' refused passed spent =>
      exact ⟨_, .rolledBack, _, rfl, ⟨standing.books.rolledBack regular told fate
        owned.absent.opened (standing.conduct passed)
        (.refused (same ▸ refused) (Transaction.farewell_cases w)) spent,
        passed.tame standing.tame⟩, by simp⟩
  | @cut e w' cause passed spent =>
      exact ⟨_, .rolledBack, _, rfl, ⟨standing.books.rolledBack regular told fate
        owned.absent.opened (standing.conduct passed)
        (.rolledBack (Transaction.farewell_cases w)) spent,
        passed.tame standing.tame⟩, by simp⟩

/-! ## Any transaction -/

theorem drop (standing : Standing origin rules plain (tx.sessions ++ rest) history w)
    (attended : Bool) :
    Standing origin rules plain rest (history ++ tx.leaving attended) (tx.drop attended w) := by
  cases phase : tx.phase with
  | ended ending =>
      rw [Transaction.sessions_of_ended phase] at standing
      rw [Transaction.leaving, Transaction.drop, phase, List.append_nil]
      exact standing
  | live session =>
      rw [Transaction.sessions_of_live phase] at standing
      rw [Transaction.leaving, Transaction.drop, phase]
      rcases standing.books.life_of_held List.mem_cons_self with ⟨life, regular, told, fate, owned⟩
      cases attended with
      | false => exact ⟨standing.books.forgotten regular told fate owned, standing.tame⟩
      | true =>
          exact ⟨standing.books.dropped regular told fate owned _ _,
            standing.tame.spawn (fun _ member => absurd member List.not_mem_nil)
              (fun connects => absurd connects Bool.false_ne_true)⟩

/-- A transaction is begun, or it is not. -/
theorem begin (standing : Standing origin rules plain held history w) (context : Context)
    (connector : Connector) (scope : Scope) (holder : Option String) :
    match Transaction.begin context connector scope w with
    | (.error _, w') => Standing origin rules plain held history w'
    | (.ok tx, w') =>
      exists session, tx = ⟨scope, .live session⟩ ∧
        Standing origin rules plain (session :: held)
          (history ++ [.began session.number holder scope]) w' := by
  have same := standing.books.sameRules
  have outcome := Transaction.begin_cases standing.tame standing.fits standing.books.numbered
    context connector scope
  have entering : forall {after : List Session} {w' : World Server Session},
      Passage (rules.licence plain).shut [Session.fresh (w.server.ledger.opened + 1)] w.entered
        after w' ->
      Circulation.Conduct (rules.licence plain) (w.circulation []) (w'.circulation after) ∧
        Tame (rules.licence plain).shut w' := by
    intro after w' passed
    have tame : Tame (rules.licence plain).shut w.entered :=
      ⟨standing.tame.ordered, standing.tame.spoken, standing.tame.prompt⟩
    exact ⟨.head (.enter True.intro) ((passed.conduct tame).within (Licence.shut_within _)),
      passed.tame tame⟩
  generalize Transaction.begin context connector scope w = answer at outcome ⊢
  cases outcome with
  | faulty fault => exact standing
  | unconnected sound failed => exact standing
  | unbegun sound failing passed spent =>
      exact ⟨standing.books.pass (entering passed).1, (entering passed).2⟩
  | unplaced sound split accepted failing passed spent =>
      exact ⟨standing.books.pass (entering passed).1, (entering passed).2⟩
  | @begun session w' sound accepted passed owned =>
      refine ⟨session, rfl, ?_⟩
      rw [owned.number_eq]
      exact ⟨standing.books.begun sound (same ▸ accepted) (entering passed).1 owned holder,
        (entering passed).2⟩

/-- A transaction is rolled back, unless it has ended. -/
theorem rollbackAny (standing : Standing origin rules plain (tx.sessions ++ rest) history w) :
    (tx.rollback w).2.1.sessions = [] ∧
      tx.Continues (tx.rollback w).2.1 (tx.change (tx.rollback w).2.1) ∧
      Standing origin rules plain rest (history ++ tx.change (tx.rollback w).2.1)
        (tx.rollback w).2.2 := by
  cases phase : tx.phase with
  | ended ending =>
      rw [Transaction.sessions_of_ended phase] at standing
      have kept : tx.rollback w = (.ok (), tx, w) := by rw [Transaction.rollback, phase]
      rw [kept, Transaction.change, phase, List.append_nil]
      exact ⟨Transaction.sessions_of_ended phase, .refl tx [], standing⟩
  | live session =>
      rw [Transaction.sessions_of_live phase] at standing
      rcases standing.rollback phase with ⟨result, w', rolled, standing'⟩
      rw [rolled]
      refine ⟨rfl, .ofEnding phase _, ?_⟩
      rw [Transaction.change, phase]
      exact standing'

/-- A transaction is committed or rolled back, unless it has ended. -/
theorem commitAny (standing : Standing origin rules plain (tx.sessions ++ rest) history w)
    (context : Context) :
    (tx.commit context w).2.1.sessions = [] ∧
      tx.Continues (tx.commit context w).2.1 (tx.change (tx.commit context w).2.1) ∧
      Standing origin rules plain rest (history ++ tx.change (tx.commit context w).2.1)
        (tx.commit context w).2.2 := by
  cases phase : tx.phase with
  | ended ending =>
      rw [Transaction.sessions_of_ended phase] at standing
      have kept : tx.commit context w = (.error (.finished ending), tx, w) := by
        rw [Transaction.commit, phase]
      rw [kept, Transaction.change, phase, List.append_nil]
      exact ⟨Transaction.sessions_of_ended phase, .refl tx [], standing⟩
  | live session =>
      rw [Transaction.sessions_of_live phase] at standing
      rcases standing.commit phase context with ⟨result, ending, w', committed, standing', _⟩
      rw [committed]
      refine ⟨rfl, .ofEnding phase _, ?_⟩
      rw [Transaction.change, phase]
      exact standing'

/-- A transaction is ended as an outcome says, unless it has ended. -/
theorem finishAny (standing : Standing origin rules plain (tx.sessions ++ rest) history w)
    {α : Type} (context : Context) (outcome : Except Error α) :
    (tx.finish context outcome w).2.1.sessions = [] ∧
      Standing origin rules plain rest (history ++ tx.change (tx.finish context outcome w).2.1)
        (tx.finish context outcome w).2.2 := by
  cases outcome with
  | error e =>
      rcases standing.rollbackAny with ⟨ended, _, standing'⟩
      exact ⟨ended, standing'⟩
  | ok value =>
      rcases standing.commitAny context with ⟨ended, _, standing'⟩
      have same : (tx.finish context (.ok value) w).2 = (tx.commit context w).2 := by
        rw [Transaction.finish]
        rcases tx.commit context w with ⟨e | _, after, w'⟩ <;> rfl
      rw [same]
      exact ⟨ended, standing'⟩

/-! ## Commands -/

theorem execute (standing : Standing origin rules plain (tx.sessions ++ rest) history w)
    (context : Context) {sql : String} (plainly : plain -> Plain sql) :
    tx.Continues (tx.execute context sql w).2.1
        ((Command.execute sql).events context tx w) ∧
      Standing origin rules plain ((tx.execute context sql w).2.1.sessions ++ rest)
        (history ++ (Command.execute sql).events context tx w)
        (tx.execute context sql w).2.2 := by
  cases phase : tx.phase with
  | ended ending =>
      have kept : tx.execute context sql w = (.error (.finished ending), tx, w) := by
        rw [Transaction.execute, Transaction.executeAs, phase]
      rw [kept, Command.events, phase, List.append_nil]
      exact ⟨.refl tx [], standing⟩
  | live session =>
      rw [Transaction.sessions_of_live phase] at standing
      have ran : tx.execute context sql w =
          ((w.executeIn context "exec" sql session).1,
            tx.withSession (w.executeIn context "exec" sql session).2.1,
            (w.executeIn context "exec" sql session).2.2) := by
        rw [Transaction.execute, Transaction.executeAs, phase]
      have told : (Command.execute sql).events context tx w =
          Event.ofResult session.number sql (w.executeIn context "exec" sql session).1 := by
        simp only [Command.events, phase, ran]
      rw [told, ran]
      rcases standing.attempt
        (executeIn_attempt standing.tame context "exec" sql session) plainly
        with ⟨same, standing'⟩
      exact ⟨.ofLive phase same _, standing'⟩

theorem query (standing : Standing origin rules plain (tx.sessions ++ rest) history w)
    (context : Context) {sql : String} (plainly : plain -> Plain sql) :
    tx.Continues (tx.query context sql w).2.1
        ((Command.rows sql).events context tx w) ∧
      Standing origin rules plain ((tx.query context sql w).2.1.sessions ++ rest)
        (history ++ (Command.rows sql).events context tx w) (tx.query context sql w).2.2 := by
  cases phase : tx.phase with
  | ended ending =>
      have kept : tx.query context sql w = (.error (.finished ending), tx, w) := by
        rw [Transaction.query, phase]
      rw [kept, Command.events, phase, List.append_nil]
      exact ⟨.refl tx [], standing⟩
  | live session =>
      rw [Transaction.sessions_of_live phase] at standing
      have ran : tx.query context sql w =
          ((w.queryIn context "query" sql session).1,
            tx.withSession (w.queryIn context "query" sql session).2.1,
            (w.queryIn context "query" sql session).2.2) := by
        rw [Transaction.query, phase]
      have told : (Command.rows sql).events context tx w =
          Event.ofResult session.number sql (w.queryIn context "query" sql session).1 := by
        simp only [Command.events, phase, ran]
      rw [told, ran]
      rcases standing.attempt
        (queryIn_attempt standing.tame context "query" sql session) plainly
        with ⟨same, standing'⟩
      exact ⟨.ofLive phase same _, standing'⟩

theorem command (standing : Standing origin rules plain (tx.sessions ++ rest) history w)
    (context : Context) (command : Command)
    (plainly : plain -> forall sql, command.statement? = some sql -> Plain sql) :
    tx.Continues (command.run context tx w).2.1 (command.events context tx w) ∧
      Standing origin rules plain ((command.run context tx w).2.1.sessions ++ rest)
        (history ++ command.events context tx w) (command.run context tx w).2.2 := by
  cases command with
  | execute sql => exact standing.execute context fun isPlain => plainly isPlain sql rfl
  | query sql format => exact standing.query context fun isPlain => plainly isPlain sql rfl
  | rows sql => exact standing.query context fun isPlain => plainly isPlain sql rfl
  | commit =>
      rcases standing.commitAny context with ⟨ended, continues, standing'⟩
      have told : Command.commit.events context tx w = tx.change (tx.commit context w).2.1 := by
        cases phase : tx.phase with
        | ended ending => simp only [Command.events, Transaction.change, phase]
        | live session => simp only [Command.events, phase, Command.run]
      rw [told]
      exact ⟨continues, ended ▸ standing'⟩
  | rollback =>
      rcases standing.rollbackAny with ⟨ended, continues, standing'⟩
      have told : Command.rollback.events context tx w = tx.change (tx.rollback w).2.1 := by
        cases phase : tx.phase with
        | ended ending => simp only [Command.events, Transaction.change, phase]
        | live session => simp only [Command.events, phase, Command.run]
      rw [told]
      exact ⟨continues, ended ▸ standing'⟩
  | cancel =>
      have told : Command.cancel.events context tx w = [] := by
        cases phase : tx.phase <;>
          simp only [Command.events, Transaction.change, phase, Command.run]
      rw [told, List.append_nil]
      refine ⟨.refl tx [], standing.pass ?_⟩
      rw [Command.run]
      cases context.token with
      | none => exact .refl
      | some token => exact .calm rfl rfl (List.Perm.refl _).subperm (Nat.le_refl _)
  | fail text =>
      have told : (Command.fail text).events context tx w = [] := by
        cases phase : tx.phase <;>
          simp only [Command.events, Transaction.change, phase, Command.run]
      rw [told, List.append_nil]
      exact ⟨.refl tx [], standing⟩

theorem commands (tx : Transaction Session)
    (standing : Standing origin rules plain (tx.sessions ++ rest) history w)
    (context : Context) (commands : List Command)
    (plainly : plain -> forall sql, sql ∈ commands.filterMap Command.statement? -> Plain sql) :
    Standing origin rules plain ((Command.runAll context commands tx w).2.1.sessions ++ rest)
      (history ++ Command.allEvents context commands tx w)
      (Command.runAll context commands tx w).2.2 := by
  induction commands generalizing tx w history with
  | nil =>
      rw [Command.allEvents, List.append_nil]
      exact standing
  | cons first others inductionHypothesis =>
      have own : plain -> forall sql, first.statement? = some sql -> Plain sql := by
        intro isPlain sql brings
        apply plainly isPlain sql
        exact List.mem_filterMap.mpr ⟨first, List.mem_cons_self, brings⟩
      rcases standing.command context first own with ⟨_, next⟩
      rw [Command.runAll, Command.allEvents, ← List.append_assoc]
      generalize first.run context tx w = answer at next ⊢
      rcases answer with ⟨e | reply, after, w'⟩
      · rw [List.append_nil]
        exact next
      · apply inductionHypothesis after next
        intro isPlain sql member
        apply plainly isPlain sql
        rcases List.mem_filterMap.mp member with ⟨command, member, brings⟩
        exact List.mem_filterMap.mpr ⟨command, List.mem_cons_of_mem _ member, brings⟩

/-- A transaction that is begun, given commands and ended, by a body that does what the commands
do. -/
theorem whole (standing : Standing origin rules plain held history w) (context : Context)
    (connector : Connector) (scope : Scope) (keep : Bool) (commands : List Command) {α : Type}
    (body : Transaction.Body Server Session α)
    (agrees : forall tx w, (body tx w).2 = (Command.runAll context commands tx w).2 ∧
      (body tx w).1.isOk = (Command.runAll context commands tx w).1.isOk)
    (plainly : plain -> forall sql, sql ∈ commands.filterMap Command.statement? -> Plain sql) :
    Standing origin rules plain held
      (history ++ Transaction.wholeEvents context connector scope keep commands w)
      (if keep then (Transaction.beginWrite context connector scope body w).2
        else (Transaction.beginReadOnly context connector scope body w).2) := by
  have begun := standing.begin context connector scope none
  rw [Transaction.wholeEvents, Transaction.beginWrite, Transaction.beginReadOnly]
  generalize Transaction.begin context connector scope w = answer at begun ⊢
  rcases answer with ⟨e | tx, w'⟩
  · rw [List.append_nil]
    cases keep <;> exact begun
  · rcases begun with ⟨session, rfl, begun⟩
    have spoken := Standing.commands ⟨scope, .live session⟩ begun context commands plainly
    rcases agrees ⟨scope, .live session⟩ w' with ⟨same, outcome⟩
    simp only [Transaction.write, Transaction.readOnly]
    rcases ran : Command.runAll context commands ⟨scope, .live session⟩ w' with
      ⟨result, after, w''⟩
    rcases worked : body ⟨scope, .live session⟩ w' with ⟨result', after', w1⟩
    rw [ran] at spoken same outcome
    rw [worked] at same outcome
    cases same
    rw [← List.append_assoc, ← List.append_assoc]
    cases keep with
    | false =>
        rcases spoken.rollbackAny with ⟨_, _, ended⟩
        exact ended
    | true =>
        rcases spoken.finishAny context result with ⟨_, ended⟩
        simp only [if_true, Transaction.finish_of_isOk outcome]
        exact ended

end Standing
end ScopedSql
