import ScopedSql.Proofs.Action.Intent
import ScopedSql.Proofs.Desk.Discreet
import ScopedSql.Proofs.Scripted.Place
import ScopedSql.Proofs.Transaction.Course

namespace ScopedSql

open Scripted World Transaction

/-!
# What an action leaves in the log

An action that does not use the pool opens one session, runs its statement there
on the database and the branch that were asked for, and closes the session.  It
runs nothing anywhere else, and what it runs follows one plan up to the point
where something fails.
-/

variable {rules : Rules} {scope : Scope} {sql : String} {keep succeeded : Bool}
  {followed extra : List String} {w w' : World Server Session} {action : Action}

/-! ## The entries of a plan -/

/-- What the ledger notes when all that is planned for a statement is run on a session. -/
def plannedEntries (number : Nat) (place : Scope) (sql : String) (last : Entry) : List Entry :=
  openingEntries number place.database? place.branch? ++
    [⟨number, place.database?, place.branch?, sql⟩, last]

/-- What was sent on a session follows a plan up to some point.  A rollback may come after it, as
long as the plan was not followed to a good end.  The plan ends with a commit only after its
statement succeeded.  What succeeded was sent, and it was committed if it was to be kept. -/
structure Scripted.Follows (rules : Rules) (keep succeeded : Bool) (number : Nat) (place : Scope)
    (sql : String) (last : Entry) (sent rest : List Entry) : Prop where
  closing : last.sql = closingStatement keep
  part : sent <+: plannedEntries number place sql last
  undone : rest = [] ∨ rest.map Entry.sql = ["ROLLBACK"] ∧
    ¬ (sent = plannedEntries number place sql last ∧ rules.refusal? last.sql = none)
  earned : sent = plannedEntries number place sql last -> keep = true -> rules.refusal? sql = none
  ran : succeeded = true -> rules.refusal? sql = none ∧
    openingEntries number place.database? place.branch? ++
      [⟨number, place.database?, place.branch?, sql⟩] <+: sent
  kept : succeeded = true -> keep = true ->
    sent = plannedEntries number place sql last ∧ rules.refusal? last.sql = none

/-- A plan in full, as a server notes it that refuses nothing. -/
theorem transcript_planned (valid : scope.Valid) (sql : String) (keep : Bool) (number : Nat) :
    exists last, last.sql = closingStatement keep ∧
      Rules.standard.transcript (Session.fresh number) (Life.opening scope ++ [sql]) =
        openingEntries number scope.database? scope.branch? ++
          [⟨number, scope.database?, scope.branch?, sql⟩] ∧
      Rules.standard.transcript (Session.fresh number) (planned scope sql keep) =
        plannedEntries number scope sql last := by
  rcases Rules.transcript_opening valid (Rules.refusal?_standard _)
    (fun sql _ => Rules.refusal?_standard sql) number
    with ⟨opening, database, branch⟩
  have same : (Rules.standard.replay (Session.fresh number) (Life.opening scope)).number = number :=
    Rules.replay_number _ _ _
  refine ⟨(Rules.standard.move
    (Rules.standard.replay (Session.fresh number) (Life.opening scope)) sql).entry
    (closingStatement keep), rfl, ?_, ?_⟩
  · rw [Rules.transcript_append, Life.opening, opening, ← database, ← branch]
    simp only [Rules.transcript, Session.entry]
    rw [← Life.opening, same]
  · rw [planned, Rules.transcript_append, plannedEntries, Life.opening, opening]
    rw [Life.opening] at same
    simp only [Rules.transcript, Session.entry, database, branch, same]

/-- The course of a plan shows in the entries on its session. -/
theorem Course.follows (course : Course rules scope sql keep succeeded followed extra)
    (valid : scope.Valid) (number : Nat) :
    exists last sent rest,
      rules.transcript (Session.fresh number) (followed ++ extra) = sent ++ rest ∧
        Follows rules keep succeeded number scope sql last sent rest := by
  rcases transcript_planned valid sql keep number with ⟨last, closing, ran, whole⟩
  have sent := Rules.transcript_eq_standard course.accepted (Session.fresh number)
  have full : rules.transcript (Session.fresh number) followed =
      plannedEntries number scope sql last -> followed = planned scope sql keep := by
    intro same
    rw [← whole] at same
    have texts := congrArg (List.map Entry.sql) same
    rwa [Rules.transcript_sql, Rules.transcript_sql] at texts
  refine ⟨last, _, _, Rules.transcript_append _ _ _ _, closing, ?_, ?_, ?_, ?_, ?_⟩
  · rw [sent, ← whole]
    exact Rules.transcript_prefix course.part _ _
  · rcases course.farewell with rfl | rfl
    · exact Or.inl rfl
    · refine Or.inr ⟨Rules.transcript_sql _ _ _, ?_⟩
      rintro ⟨complete, accepts⟩
      exact course.unended (List.cons_ne_nil _ _) ⟨full complete, closing ▸ accepts⟩
  · intro complete _
    apply course.accepted
    rw [full complete, Course.planned_eq, List.dropLast_concat]
    exact List.mem_append.mpr (Or.inr List.mem_cons_self)
  · intro succeeds
    refine ⟨(course.ran succeeds).2, ?_⟩
    rw [sent, ← ran]
    exact Rules.transcript_prefix (course.ran succeeds).1 _ _
  · intro succeeds keeps
    rcases course.kept succeeds keeps with ⟨complete, accepts⟩
    rw [sent, ← whole, complete, closing]
    exact ⟨rfl, accepts⟩

/-! ## One session for an action -/

/-- The session that is opened next, or one that the background work has in hand. -/
def World.NextOrBusy (w : World Server Session) (number : Nat) : Prop :=
  number = w.server.ledger.opened + 1 ∨ w.Busy number

/-- One session was opened and closed, and all that was run is found on it, apart from what the
background work ran on the sessions that it had in hand. -/
structure Traced (rules : Rules) (keep succeeded : Bool) (place : Scope) (sql : String)
    (w w' : World Server Session) : Prop where
  opened : w'.server.ledger.opened = w.server.ledger.opened + 1
  closed : w'.server.closings (w.server.ledger.opened + 1) = 1
  alone : w.server.RunsOn w.NextOrBusy w'.server
  log : exists last sent rest, w'.server.log (w.server.ledger.opened + 1) = sent ++ rest ∧
    Follows rules keep succeeded (w.server.ledger.opened + 1) place sql last sent rest

/-- Nothing is opened for a scope with a fault. -/
theorem Transaction.begin_of_fault {e : Error} (fault : scope.fault? = some e) (context : Context)
    (connector : Connector) (w : World Server Session) :
    begin context connector scope w = (.error e, w) := by
  rw [begin, scope.statements_eq, fault]

theorem isOk_map {α β : Type} (f : α -> β) (result : Except Error α) :
    (result.map f).isOk = result.isOk := by
  cases result <;> rfl

namespace Actions

variable {own : Nat -> Prop}

/-- An action that does not use the pool opens nothing, or its plan takes its course on a session
of its own. -/
theorem perform_performed (actions : Actions) (context : Context) (arguments : Arguments)
    (tame : Tame (rules.licence True).shut w) (same : w.server.rules = rules)
    (numbered : (w.circulation []).Numbered) (next : own (w.server.ledger.opened + 1))
    (other : action ≠ .listDatabases) :
    let answer := actions.perform context action arguments w
    (exists e, answer = (.error e, w)) ∨
      exists plan, action.plan actions.classify arguments = .ok plan ∧
        (action.place arguments).Valid ∧
        Performed rules (action.place arguments) plan.sql action.writes answer.1.isOk w answer.2 ∧
        Footprint own w answer.2 := by
  intro answer
  simp only [answer, perform]
  cases made : action.plan actions.classify arguments with
  | error e => exact Or.inl ⟨e, rfl⟩
  | ok plan =>
      cases action.plan_suits made with
      | pooled lists => exact absurd lists other
      | @read scope sql format reads place =>
          subst place
          have works : Body.KeepsTo (rules.licence True).shut own
              (fun tx w => tx.queryText context sql format w) :=
            fun tx w keeps => query_progress _ keeps context sql w
          cases fault : (action.place arguments).fault? with
          | some e =>
              refine Or.inl ⟨e, ?_⟩
              simp only [carryOut, beginReadOnly, begin_of_fault fault]
          | none =>
              rcases beginReadOnly_performed tame same numbered context actions.connector
                (action.place arguments) sql format
                with unopened | performed
              · exact Or.inl unopened
              · rw [reads]
                exact Or.inr ⟨_, rfl, Scope.fault?_eq_none_iff.mp fault, performed,
                  (beginReadOnly_progress _ next works).toFootprint⟩
      | @write scope sql report writes place work =>
          subst place
          have works : Body.KeepsTo (rules.licence True).shut own
              (fun tx w => tx.execute context sql w) :=
            fun tx w keeps => executeAs_progress _ keeps context "exec" sql w
          simp only [carryOut]
          cases fault : (action.place arguments).fault? with
          | some e =>
              refine Or.inl ⟨e, ?_⟩
              simp only [beginWrite, begin_of_fault fault]
              rfl
          | none =>
              rcases beginWrite_performed tame same numbered context actions.connector
                (action.place arguments) sql
                with ⟨e, unopened⟩ | performed
              · refine Or.inl ⟨e, ?_⟩
                simp only [unopened]
                rfl
              · rw [writes, isOk_map]
                exact Or.inr ⟨_, rfl, Scope.fault?_eq_none_iff.mp fault, performed,
                  (beginWrite_progress _ next works).toFootprint⟩

end Actions

namespace Desk

/-- Whatever was done before, an action opens nothing, or it follows its plan on a session of its
own, where its arguments ask for it, and on no other. -/
theorem traced_of_action (rules : Rules) (requests : List Request) (actions : Actions)
    (context : Context) (arguments : Arguments) (other : action ≠ .listDatabases) :
    let w := ((ofRules rules).run requests).world
    let answer := actions.perform context action arguments w
    (exists e, answer = (.error e, w)) ∨
      exists plan, action.plan actions.classify arguments = .ok plan ∧
        (action = .query ∨ action = .exec ->
          arguments.text Sql.statementArgument = .ok plan.sql) ∧
        Traced rules action.writes answer.1.isOk (action.place arguments) plan.sql w answer.2 := by
  intro w answer
  have sound := sound_run rules False requests fun impossible => impossible.elim
  have tame := (discreet_run rules requests).tame
  have confined : Confined w.NextOrBusy w := tame.confined fun number busy => Or.inr busy
  have next : w.NextOrBusy (w.server.ledger.opened + 1) := Or.inl rfl
  rcases actions.perform_performed context arguments tame sound.books.sameRules
    sound.books.numbered next other
    with unopened | ⟨plan, made, valid, performed, footprint⟩
  · exact Or.inl unopened
  · refine Or.inr ⟨plan, made, fun brings => Action.sql_of_caller brings made, ?_⟩
    rcases performed.course with ⟨followed, extra, course, spent⟩
    refine ⟨performed.opened, spent.closed, footprint.runs confined, ?_⟩
    rw [spent.log, performed.sameRules]
    exact course.follows valid _

/-- A merge of one branch into another runs on the branch that it changes. -/
theorem traced_of_merge :
    let arguments : Arguments :=
      ⟨[("database", .text "shop"), ("source_branch", .text "dev"),
        ("destination_branch", .text "main")]⟩
    let actions : Actions :=
      ⟨Scripted.connector, ⟨0, Scripted.connector, []⟩, Sql.Classifier.byKeyword⟩
    let w := ((ofRules Rules.standard).run []).world
    exists w', actions.perform ⟨none, none⟩ .mergeBranch arguments w =
        (.ok "successfully merged dev into main", w') ∧
      Traced Rules.standard true true ⟨some "shop", some "main"⟩ "CALL DOLT_MERGE('dev');"
        w w' := by
  intro arguments actions w
  have works : (match (actions.perform ⟨none, none⟩ .mergeBranch arguments w).1 with
      | .ok text => decide (text = "successfully merged dev into main")
      | .error _ => false) = true := by decide +kernel
  have other : Action.mergeBranch ≠ .listDatabases := by decide
  rcases answer : actions.perform ⟨none, none⟩ .mergeBranch arguments w with ⟨e | text, w'⟩
  · rw [answer] at works
    cases works
  · rw [answer] at works
    have said := of_decide_eq_true works
    subst said
    refine ⟨w', rfl, ?_⟩
    have result : (actions.perform ⟨none, none⟩ .mergeBranch arguments w).1.isOk = true := by
      rw [answer]
      rfl
    have after : (actions.perform ⟨none, none⟩ .mergeBranch arguments w).2 = w' := by
      rw [answer]
    rcases traced_of_action Rules.standard [] actions ⟨none, none⟩ arguments other
      with ⟨e, failed⟩ | ⟨plan, made, _, traced⟩
    · exact nomatch answer.symm.trans failed
    · cases made
      rw [result, after] at traced
      exact traced

end Desk
end ScopedSql
