import ScopedSql.Proofs.Transaction.Ownership

namespace ScopedSql
namespace Transaction

open Scripted World

/-!
# Beginning a transaction

There are few ways in which a beginning can end.  Either nothing was opened, or
one session was opened; and then either the transaction is live on it, at its
place, or the session was closed after the first statement that failed.
-/

variable {w w' : World Server Session} {number : Nat} {done sqls : List String}
  {session : Session} {licence : Licence} {scope : Scope}

/-- How a statement failed, and what of it was run: nothing if it was cut off, itself if it was
refused. -/
inductive Failing (rules : Rules) (operation sql : String) (e : Error) : List String -> Prop
  | cut (cause : e.Interrupts operation) : Failing rules operation sql e []
  | refused (refused : rules.refusal? sql = some e) : Failing rules operation sql e [sql]

/-- What comes of putting a new transaction on its scope. -/
inductive Bootstrapping (licence : Licence) (number : Nat) (done : List String) (scope : Scope)
    (sqls : List String) (session : Session) (w : World Server Session) :
    Except Error (Transaction Session) × World Server Session -> Prop
  | placed {session' : Session} {w' : World Server Session}
      (accepted : forall sql, sql ∈ sqls -> w.server.rules.refusal? sql = none)
      (passed : Passage licence [session] w [session'] w')
      (owned : Owned number (done ++ sqls) session' w') :
      Bootstrapping licence number done scope sqls session w (.ok ⟨scope, .live session'⟩, w')
  | failed {e : Error} {before after run : List String} {sql : String}
      {w' : World Server Session} (split : sqls = before ++ sql :: after)
      (accepted : forall sql, sql ∈ before -> w.server.rules.refusal? sql = none)
      (failing : Failing w.server.rules "bootstrap" sql e run)
      (passed : Passage licence [session] w [] w')
      (spent : Spent number (done ++ (before ++ (run ++ farewell w))) w') :
      Bootstrapping licence number done scope sqls session w (.error e, w')

/-- Statements are accepted one after the other, under rules that stay as they are. -/
theorem accepted_cons {sql : String} (rules : w'.server.rules = w.server.rules)
    (accepted : w.server.rules.refusal? sql = none)
    (others : forall statement, statement ∈ done -> w'.server.rules.refusal? statement = none) :
    forall statement, statement ∈ sql :: done -> w.server.rules.refusal? statement = none := by
  intro statement member
  rcases List.mem_cons.mp member with rfl | member
  · exact accepted
  · exact rules ▸ others statement member

theorem bootstrap_cases (scope : Scope) (tame : Tame licence w) (fits : licence.Fits w.server.rules)
    (owned : Owned number done session w) (context : Context)
    (spoken : forall sql, sql ∈ sqls -> licence.speaks sql) :
    Bootstrapping licence number done scope sqls session w
      (bootstrap ⟨scope, .live session⟩ context sqls w) := by
  -- What is done already grows with the session's state, so both are general.
  induction sqls generalizing session w done with
  | nil =>
      refine .placed (fun sql member => nomatch member) .refl ?_
      rw [List.append_nil]
      exact owned
  | cons sql rest inductionHypothesis =>
      have attempt := (executeIn_attempt tame context "bootstrap" sql session).owning tame
        (spoken sql List.mem_cons_self) owned
      rw [bootstrap, executeAs]
      simp only
      generalize w.executeIn context "bootstrap" sql session = answer at attempt ⊢
      cases attempt with
      | cut cause passed owned =>
          rcases rollback_after (withSession ⟨scope, .live session⟩ session) tame fits passed
            owned rfl
            with ⟨result, w2, rolled, passed', spent⟩
          simp only [rolled]
          exact .failed (List.nil_append _).symm (fun sql member => nomatch member) (.cut cause)
            passed' spent
      | refused refused passed owned =>
          rcases rollback_after (withSession ⟨scope, .live session⟩ session) tame fits passed
            owned rfl
            with ⟨result, w2, rolled, passed', spent⟩
          rw [List.append_assoc] at spent
          simp only [rolled]
          exact .failed (List.nil_append _).symm (fun sql member => nomatch member)
            (.refused refused) passed' spent
      | @done value session' w' accepted passed owned =>
          have rules := passed.rules tame
          have others := inductionHypothesis (passed.tame tame) (rules ▸ fits) owned
            fun statement member => spoken statement (List.mem_cons_of_mem _ member)
          simp only [withSession]
          generalize bootstrap ⟨scope, .live session'⟩ context rest w' = answer at others ⊢
          cases others with
          | placed accepted' passed' owned' =>
              rw [List.append_assoc] at owned'
              exact .placed (accepted_cons rules accepted accepted') (passed.trans passed') owned'
          | @failed e before after run failed w'' split accepted' failing passed' spent =>
              rw [farewell_of_rules rules, List.append_assoc] at spent
              have whole : sql :: rest = (sql :: before) ++ failed :: after :=
                congrArg (List.cons sql) split
              exact .failed whole (accepted_cons rules accepted accepted') (rules ▸ failing)
                (passed.trans passed') spent

/-- What comes of beginning a transaction.  Nothing is opened for a scope with a fault or if no
session can be had.  Else one session is opened, and it is closed again unless all went well. -/
inductive Beginning (licence : Licence) (context : Context) (connector : Connector)
    (scope : Scope) (w : World Server Session) :
    Except Error (Transaction Session) × World Server Session -> Prop
  | faulty {e : Error} (fault : scope.fault? = some e) :
      Beginning licence context connector scope w (.error e, w)
  | unconnected {e : Error} (sound : scope.fault? = none)
      (failed : w.connectIn context connector.target = (.error e, w)) :
      Beginning licence context connector scope w (.error e, w)
  | unbegun {e : Error} {run : List String} {w' : World Server Session}
      (sound : scope.fault? = none)
      (failing : Failing w.server.rules "begin" "START TRANSACTION" e run)
      (passed : Passage licence [Session.fresh (w.server.ledger.opened + 1)] w.entered [] w')
      (spent : Spent (w.server.ledger.opened + 1) run w') :
      Beginning licence context connector scope w (.error e, w')
  | unplaced {e : Error} {before after run : List String} {sql : String}
      {w' : World Server Session} (sound : scope.fault? = none)
      (split : scope.positions = before ++ sql :: after)
      (accepted : forall statement, statement ∈ "START TRANSACTION" :: before ->
        w.server.rules.refusal? statement = none)
      (failing : Failing w.server.rules "bootstrap" sql e run)
      (passed : Passage licence [Session.fresh (w.server.ledger.opened + 1)] w.entered [] w')
      (spent : Spent (w.server.ledger.opened + 1)
        ("START TRANSACTION" :: (before ++ (run ++ farewell w))) w') :
      Beginning licence context connector scope w (.error e, w')
  | begun {session : Session} {w' : World Server Session} (sound : scope.fault? = none)
      (accepted : forall statement, statement ∈ "START TRANSACTION" :: scope.positions ->
        w.server.rules.refusal? statement = none)
      (passed : Passage licence [Session.fresh (w.server.ledger.opened + 1)] w.entered
        [session] w')
      (owned : Owned (w.server.ledger.opened + 1) ("START TRANSACTION" :: scope.positions)
        session w') :
      Beginning licence context connector scope w (.ok ⟨scope, .live session⟩, w')

theorem begin_cases (tame : Tame licence w) (fits : licence.Fits w.server.rules)
    (numbered : (w.circulation []).Numbered) (context : Context) (connector : Connector)
    (scope : Scope) :
    Beginning licence context connector scope w (begin context connector scope w) := by
  rw [begin, scope.statements_eq]
  cases fault : scope.fault? with
  | some e => exact .faulty fault
  | none =>
      rcases connectIn_cases w context connector.target with ⟨e, failed⟩ | opened
      · simp only [failed]
        exact .unconnected fault failed
      · simp only [opened]
        have tame' : Tame licence w.entered := ⟨tame.ordered, tame.spoken, tame.prompt⟩
        have attempt := (executeIn_attempt tame' context "begin" "START TRANSACTION"
          (Session.fresh (w.server.ledger.opened + 1))).owning tame' fits.begin
          (Owned.opened numbered)
        generalize w.entered.executeIn context "begin" "START TRANSACTION"
          (Session.fresh (w.server.ledger.opened + 1)) = answer at attempt ⊢
        cases attempt with
        | cut cause passed owned =>
            exact .unbegun fault (.cut cause) (passed.trans .close) owned.close
        | refused refused passed owned =>
            exact .unbegun fault (.refused refused) (passed.trans .close) owned.close
        | @done value session w' accepted passed owned =>
            have rules : w'.server.rules = w.server.rules := passed.rules tame'
            have placing := bootstrap_cases scope (passed.tame tame')
              (rules ▸ fits) owned context (fits.positions scope fault)
            simp only
            generalize bootstrap ⟨scope, .live session⟩ context scope.positions w' = answer
              at placing ⊢
            cases placing with
            | placed accepted' passed' owned' =>
                exact .begun fault (accepted_cons rules accepted accepted')
                  (passed.trans passed') owned'
            | failed split accepted' failing passed' spent =>
                rw [farewell_of_rules rules] at spent
                exact .unplaced fault split (accepted_cons rules accepted accepted')
                  (rules ▸ failing) (passed.trans passed') spent

end Transaction
end ScopedSql
