import ScopedSql.Proofs.Transaction.Footprint
import ScopedSql.Proofs.Transaction.Resolution

namespace ScopedSql

open Scripted World

/-!
# How work in a transaction is concluded

What follows the work in a transaction ends it once.  After good work the result
is that of the work exactly if a commit was run and succeeded, and otherwise it
is the error of the commit; after a failure it is the failure, whatever comes of
the rollback.  Where the work has ended the transaction itself, nothing more is
run.
-/

variable {rules : Rules} {context : Context} {session : Session} {tx : Transaction Session}
  {w : World Server Session} {α : Type}

/-! ## Programs -/

/-- Any work that is done by giving commands to a transaction: each command is given within some
context, the replies decide how the work goes on, and it may come to any outcome, also to a good
one after commands that failed. -/
inductive Program (α : Type)
  | outcome (result : Except Error α)
  | ask (context : Context) (command : Command) (next : Except Error Reply -> Program α)

namespace Program

variable {σ κ : Type} [Backend σ κ]

/-- The program whose good outcomes are changed. -/
def map {β : Type} (f : α -> β) : Program α -> Program β
  | .outcome result => .outcome (result.map f)
  | .ask context command next => .ask context command fun reply => (next reply).map f

/-- The work of a program. -/
def body : Program α -> Transaction.Body σ κ α
  | .outcome result, tx, w => (result, tx, w)
  | .ask context command next, tx, w =>
    let (reply, tx, w) := command.run context tx w
    (next reply).body tx w

/-- The program that gives commands until the first one that fails. -/
def ofCommands (context : Context) : List Command -> Program (List Reply)
  | [] => .outcome (.ok [])
  | command :: rest => .ask context command fun reply =>
    match reply with
    | .error e => .outcome (.error e)
    | .ok reply => (ofCommands context rest).map fun replies => reply :: replies

theorem body_map {β : Type} (f : α -> β) (program : Program α) (tx : Transaction κ)
    (w : World σ κ) :
    (program.map f).body tx w =
      ((program.body tx w).1.map f, (program.body tx w).2.1, (program.body tx w).2.2) := by
  induction program generalizing tx w with
  | outcome result => rfl
  | ask context command next inductionHypothesis => exact inductionHypothesis _ _ _

theorem body_ofCommands (context : Context) (commands : List Command) (tx : Transaction κ)
    (w : World σ κ) :
    (ofCommands context commands).body tx w = Command.runAll context commands tx w := by
  induction commands generalizing tx w with
  | nil => rfl
  | cons command rest inductionHypothesis =>
      rw [ofCommands, body, Command.runAll]
      rcases command.run context tx w with ⟨e | reply, tx', w'⟩
      · rfl
      · simp only [body_map, inductionHypothesis]

end Program

/-! ## What shows of a conclusion -/

/-- A live transaction was ended: these statements were sent on its session to end it, which was
closed then, and its work is durable exactly if it ended as committed.  Whatever was run besides
was run in the background. -/
structure Concluded (rules : Rules) (tx : Transaction Session) (session : Session)
    (w : World Server Session) (ending : Ending) (sent : List String)
    (tx' : Transaction Session) (w' : World Server Session) : Prop where
  ended : tx' = tx.ending ending
  log : w'.server.log session.number =
    w.server.log session.number ++ rules.transcript session sent
  once : Life.SentOnce rules ending.fate sent
  closed : w'.server.closings session.number = 1
  committed : w'.server.ledger.committed =
    w.server.ledger.committed ++ (if ending = .committed then session.pending else [])
  others : w.server.RunsOn (w.OwnOrBusy session.number) w'.server

/-- What a caller is told of work whose outcome decides, given what was sent to end the
transaction.  A commit that was not sent was cut off, for a reason that is reported. -/
structure Told (rules : Rules) (context : Context) (session : Session)
    (w : World Server Session) (sent : List String) (outcome result : Except Error α) :
    Prop where
  kept : forall value, result = .ok value ↔
    outcome = .ok value ∧ "COMMIT" ∈ sent ∧ rules.refusal? "COMMIT" = none
  refused : forall value e, outcome = .ok value -> "COMMIT" ∈ sent ->
    rules.refusal? "COMMIT" = some e -> result = .error e
  cut : forall value, outcome = .ok value -> "COMMIT" ∉ sent ->
    exists e, result = .error e ∧ Cause context "commit" (w.delay "COMMIT") w
      (w.executeIn context "commit" "COMMIT" session).2.2 e
  own : forall e, outcome = .error e -> result = .error e ∧ "COMMIT" ∉ sent

/-- The work in a transaction is kept or not as its outcome says.  The transaction has ended
afterwards.  If the work left it live it is ended once, and otherwise nothing is done. -/
structure Decides (rules : Rules) (context : Context) (outcome : Except Error α)
    (tx : Transaction Session) (w : World Server Session)
    (answer : Except Error α × Transaction Session × World Server Session) : Prop where
  terminal : exists ending, answer.2.1.phase = .ended ending
  live : forall session, tx.phase = .live session -> exists ending sent,
    Concluded rules tx session w ending sent answer.2.1 answer.2.2 ∧
      Told rules context session w sent outcome answer.1
  ended : forall ending, tx.phase = .ended ending -> answer.2 = (tx, w) ∧
    (forall value, outcome = .ok value -> answer.1 = .error (.finished ending)) ∧
      (forall e, outcome = .error e -> answer.1 = .error e)

/-- The work in a transaction is not kept, and its outcome is passed on as it is.  The transaction
has ended afterwards.  If the work left it live it is ended once and not committed, and otherwise
nothing is done. -/
structure Discards (rules : Rules) (outcome : Except Error α) (tx : Transaction Session)
    (w : World Server Session)
    (answer : Except Error α × Transaction Session × World Server Session) : Prop where
  result : answer.1 = outcome
  terminal : exists ending, answer.2.1.phase = .ended ending
  live : forall session, tx.phase = .live session -> exists sent,
    Concluded rules tx session w .rolledBack sent answer.2.1 answer.2.2 ∧ "COMMIT" ∉ sent
  ended : forall ending, tx.phase = .ended ending -> answer.2 = (tx, w)

/-! ## Ending a live transaction -/

namespace Told

variable {sent : List String} {value : α} {e : Error}

theorem committed (said : "COMMIT" ∈ sent) (accepted : rules.refusal? "COMMIT" = none) :
    Told rules context session w sent (.ok value) (.ok value) where
  kept := by
    intro other
    constructor
    · intro same
      exact ⟨same, said, accepted⟩
    · intro same
      exact same.1
  refused := fun _ _ _ _ refused => nomatch accepted.symm.trans refused
  cut := fun _ _ unsaid => absurd said unsaid
  own := fun _ impossible => nomatch impossible

theorem refusedBy (said : "COMMIT" ∈ sent) (refused : rules.refusal? "COMMIT" = some e) :
    Told rules context session w sent (.ok value) (.error e) where
  kept := by
    intro other
    constructor
    · intro impossible
      cases impossible
    · rintro ⟨_, _, accepted⟩
      cases accepted.symm.trans refused
  refused := by
    intro _ e' _ _ refused'
    cases refused.symm.trans refused'
    rfl
  cut := fun _ _ unsaid => absurd said unsaid
  own := fun _ impossible => nomatch impossible

theorem cutBy (unsaid : "COMMIT" ∉ sent)
    (cause : Cause context "commit" (w.delay "COMMIT") w
      (w.executeIn context "commit" "COMMIT" session).2.2 e) :
    Told rules context session w sent (.ok value) (.error e) where
  kept := by
    intro other
    constructor
    · intro impossible
      cases impossible
    · rintro ⟨_, said, _⟩
      exact absurd said unsaid
  refused := fun _ _ _ said _ => absurd said unsaid
  cut := fun _ _ _ => ⟨e, rfl, cause⟩
  own := fun _ impossible => nomatch impossible

theorem failed (unsaid : "COMMIT" ∉ sent) :
    Told rules context session w sent (.error e : Except Error α) (.error e) where
  kept := by
    intro other
    constructor
    · intro impossible
      cases impossible
    · rintro ⟨impossible, _⟩
      cases impossible
  refused := fun _ _ impossible => nomatch impossible
  cut := fun _ impossible => nomatch impossible
  own := by
    rintro _ ⟨⟩
    exact ⟨rfl, unsaid⟩

end Told

/-- The session of a live transaction is all that it has. -/
theorem keepsTo_ownOrBusy (live : tx.phase = .live session) :
    tx.KeepsTo (w.OwnOrBusy session.number) := by
  intro own live'
  cases live.symm.trans live'
  exact Or.inl rfl

/-- A rollback that comes after what was said to end the transaction. -/
theorem Released.concluded (said : List String) {last : Transaction Session}
    {waited : World Server Session}
    {answer : Except Error Unit × Transaction Session × World Server Session}
    (released : Released rules last session waited answer)
    (ended : last.ending .rolledBack = tx.ending .rolledBack)
    (log : waited.server.log session.number =
      w.server.log session.number ++ rules.transcript session said)
    (still : rules.replay session said = session)
    (committed : waited.server.ledger.committed = w.server.ledger.committed)
    (closing : Life.Closing rules .rolledBack (said ++ Transaction.farewell waited))
    (others : w.server.RunsOn (w.OwnOrBusy session.number) answer.2.2.server) :
    Concluded rules tx session w .rolledBack (said ++ Transaction.farewell waited)
      answer.2.1 answer.2.2 where
  ended := released.ended.trans ended
  log := by
    rw [Rules.transcript_append, still, ← List.append_assoc, ← log]
    exact released.log
  once := closing.sentOnce
  closed := released.closed
  committed := by
    rw [if_neg (by decide), List.append_nil]
    exact released.committed.trans committed
  others := others

namespace Transaction

variable (exclusive : Exclusive rules session w) (live : tx.phase = .live session)
include exclusive live

theorem rollback_concluded : Concluded rules tx session w .rolledBack (farewell w)
    (tx.rollback w).2.1 (tx.rollback w).2.2 := by
  have own : tx.KeepsTo (w.OwnOrBusy session.number) := keepsTo_ownOrBusy live
  have progress := rollback_progress (rules.licence True).shut own w
  have others := progress.1.runs (exclusive.tame.ownOrBusy session.number)
  have released := rollback_released exclusive live
  have nothing : w.server.log session.number =
      w.server.log session.number ++ rules.transcript session [] := (List.append_nil _).symm
  exact released.concluded [] rfl nothing rfl rfl (.rolledBack (farewell_cases w)) others

/-- After good work the transaction is committed, or the caller learns why it is not. -/
theorem finish_ok_concluded (context : Context) (value : α) : exists ending sent,
    Concluded rules tx session w ending sent (tx.finish context (.ok value) w).2.1
        (tx.finish context (.ok value) w).2.2 ∧
      Told rules context session w sent (.ok value) (tx.finish context (.ok value) w).1 := by
  have own : tx.KeepsTo (w.OwnOrBusy session.number) := keepsTo_ownOrBusy live
  have progress := commit_progress (rules.licence True).shut own context w
  have others := progress.1.runs (exclusive.tame.ownOrBusy session.number)
  have committal := commit_committal exclusive live context
  rw [finish_of_ok]
  generalize tx.commit context w = answer at committal others ⊢
  cases committal with
  | @committed w1 meanwhile inTime accepted =>
      rcases meanwhile.say exclusive.sameRules "COMMIT" with ⟨once, committed⟩
      have delivered : rules.delivery session "COMMIT" = session.pending := by
        rw [Rules.delivery, accepted, if_pos ⟨rfl, Control.read_commit⟩]
      rw [delivered] at committed
      refine ⟨.committed, ["COMMIT"], ?_, ?_⟩
      · exact
          { ended := rfl
            log := once
            once := (Life.Closing.committed accepted).sentOnce
            closed := meanwhile.close exclusive.unclosed
            committed := committed
            others := others }
      · exact .committed List.mem_cons_self accepted
  | @refused e result tx' w1 w2 meanwhile inTime refused released =>
      rcases meanwhile.say exclusive.sameRules "COMMIT" with ⟨once, committed⟩
      have quiet := Rules.delivery_of_quiet (Rules.quiet_of_refused refused) session
      rw [quiet, List.append_nil] at committed
      refine ⟨.rolledBack, "COMMIT" :: farewell (w1.say "COMMIT" session), ?_, ?_⟩
      · have still : rules.replay session ["COMMIT"] = session :=
          Rules.move_of_refused refused session
        exact released.concluded ["COMMIT"] rfl once still committed
          (.refused refused (farewell_cases _)) others
      · exact .refusedBy List.mem_cons_self refused
  | @cut e result tx' w1 w2 meanwhile cause waited released =>
      -- Nothing was said before the rollback, and whatever comes of that is dropped.
      refine ⟨.rolledBack, farewell w1, ?_, ?_⟩
      · exact released.concluded [] rfl (meanwhile.log.trans (List.append_nil _).symm) rfl
          meanwhile.committed (.rolledBack (farewell_cases w1)) others
      · exact .cutBy (commit_not_mem_farewell w1) (waited ▸ cause)

theorem finish_concluded (context : Context) (outcome : Except Error α) : exists ending sent,
    Concluded rules tx session w ending sent (tx.finish context outcome w).2.1
        (tx.finish context outcome w).2.2 ∧
      Told rules context session w sent outcome (tx.finish context outcome w).1 := by
  cases outcome with
  | ok value => exact finish_ok_concluded exclusive live context value
  | error e =>
      exact ⟨.rolledBack, farewell w, rollback_concluded exclusive live,
        .failed (commit_not_mem_farewell w)⟩

end Transaction

/-! ## The helpers -/

/-- A transaction that is live has its session for itself. -/
def Transaction.Private (rules : Rules) (tx : Transaction Session) (w : World Server Session) :
    Prop :=
  forall session, tx.phase = .live session -> Exclusive rules session w

namespace Transaction

/-- Nothing can end a transaction that has ended. -/
theorem finish_of_ended {ending : Ending} (phase : tx.phase = .ended ending) (context : Context)
    (outcome : Except Error α) :
    tx.finish context outcome w = (outcome.bind (fun _ => .error (.finished ending)), tx, w) := by
  cases outcome with
  | ok value =>
      rw [finish, commit, phase]
      rfl
  | error e =>
      rw [finish, rollback, phase]
      rfl

theorem finish_decides (own : tx.Private rules w) (context : Context)
    (outcome : Except Error α) :
    Decides rules context outcome tx w (tx.finish context outcome w) := by
  cases phase : tx.phase with
  | live session =>
      have whole := finish_concluded (own session phase) phase context outcome
      refine ⟨?_, ?_, ?_⟩
      · rcases whole with ⟨ending, sent, concluded, _⟩
        rw [concluded.ended]
        exact ⟨ending, rfl⟩
      · intro other phase'
        cases phase.symm.trans phase'
        exact whole
      · intro ending ended
        cases phase.symm.trans ended
  | ended ending =>
      rw [finish_of_ended phase]
      refine ⟨⟨ending, phase⟩, ?_, ?_⟩
      · intro session live
        cases phase.symm.trans live
      · intro other phase'
        cases phase.symm.trans phase'
        refine ⟨rfl, ?_, ?_⟩
        · rintro value rfl
          rfl
        · rintro e rfl
          rfl

theorem write_decides {body : Body Server Session α}
    (own : (body tx w).2.1.Private rules (body tx w).2.2) (context : Context) :
    Decides rules context (body tx w).1 (body tx w).2.1 (body tx w).2.2
      (tx.write context body w) :=
  finish_decides own context (body tx w).1

theorem readOnly_discards {body : Body Server Session α}
    (own : (body tx w).2.1.Private rules (body tx w).2.2) :
    Discards rules (body tx w).1 (body tx w).2.1 (body tx w).2.2 (tx.readOnly body w) := by
  rw [readOnly]
  generalize body tx w = after at own ⊢
  rcases after with ⟨outcome, tx', w'⟩
  cases phase : tx'.phase with
  | live session =>
      have concluded := rollback_concluded (own session phase) phase
      refine ⟨rfl, ?_, ?_, ?_⟩
      · refine ⟨.rolledBack, ?_⟩
        simp only
        rw [concluded.ended]
        rfl
      · intro other phase'
        cases phase.symm.trans phase'
        exact ⟨farewell w', concluded, commit_not_mem_farewell w'⟩
      · intro ending ended
        cases phase.symm.trans ended
  | ended ending =>
      have still : tx'.rollback w' = (.ok (), tx', w') := by rw [rollback, phase]
      simp only [still]
      refine ⟨rfl, ⟨ending, phase⟩, ?_, fun _ _ => rfl⟩
      intro session live
      cases phase.symm.trans live

end Transaction

end ScopedSql
