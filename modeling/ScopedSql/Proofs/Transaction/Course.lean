import ScopedSql.Proofs.Transaction.Chapter

namespace ScopedSql

open Scripted World Transaction

/-!
# Transactions for one statement

A transaction that is begun for one statement opens one session and closes it.
What is run there is planned: the opening of the scope, the statement, and the
statement that ends the transaction.  The plan is followed up to the first thing
that fails, and what was begun and not ended is rolled back.  The work of the
statement is kept exactly if the transaction is to be kept and all went well.
-/

variable {rules : Rules} {scope : Scope} {sql : String} {keep succeeded : Bool}
  {sqls before run extra : List String} {session : Session} {w w' w'' : World Server Session}
  {tx : Transaction Session} {context : Context} {connector : Connector}

/-! ## The plan and its course -/

/-- The statement with which a transaction is meant to end. -/
def closingStatement (keep : Bool) : String :=
  if keep then "COMMIT" else "ROLLBACK"

/-- All that is run for one statement if nothing fails. -/
def planned (scope : Scope) (sql : String) (keep : Bool) : List String :=
  Life.opening scope ++ [sql, closingStatement keep]

/-- What a statement leaves to be committed. -/
def workOf (sql : String) : List String :=
  if Control.read sql = .work then [sql] else []

/-- The plan for one statement was followed for a while, and then perhaps there was a rollback.
Only the last statement that was run can have failed.  A rollback follows only if the plan was not
followed to a good end.  What succeeded was run, and it was committed if it was to be kept. -/
structure Course (rules : Rules) (scope : Scope) (sql : String) (keep succeeded : Bool)
    (followed extra : List String) : Prop where
  part : followed <+: planned scope sql keep
  accepted : forall statement, statement ∈ followed.dropLast -> rules.refusal? statement = none
  farewell : Life.Farewell extra
  unended : extra ≠ [] ->
    ¬ (followed = planned scope sql keep ∧ rules.refusal? (closingStatement keep) = none)
  ran : succeeded = true ->
    Life.opening scope ++ [sql] <+: followed ∧ rules.refusal? sql = none
  kept : succeeded = true -> keep = true ->
    followed = planned scope sql keep ∧ rules.refusal? (closingStatement keep) = none

namespace Course

/-- The plan comes to its end after the statement. -/
theorem planned_eq (scope : Scope) (sql : String) (keep : Bool) :
    planned scope sql keep = (Life.opening scope ++ [sql]) ++ [closingStatement keep] := by
  rw [planned, List.append_assoc]
  rfl

/-- The plan was left before its end: some statements were accepted, and at most one more was
run. -/
theorem left (part : before ++ run <+: Life.opening scope ++ [sql])
    (accepted : forall statement, statement ∈ before -> rules.refusal? statement = none)
    (once : run.length ≤ 1) (farewell : Life.Farewell extra) :
    Course rules scope sql keep false (before ++ run) extra where
  part := by
    rw [planned_eq]
    exact part.trans (List.prefix_append _ _)
  accepted := by
    intro statement member
    rcases run with _ | ⟨last, _ | ⟨more, others⟩⟩
    · rw [List.append_nil] at member
      exact accepted statement (List.dropLast_subset _ member)
    · rw [List.dropLast_concat] at member
      exact accepted statement member
    · simp at once
  farewell := farewell
  unended := by
    rintro _ ⟨whole, _⟩
    have shorter := part.length_le
    rw [whole, planned_eq, List.length_append, List.length_singleton] at shorter
    exact absurd shorter (Nat.not_succ_le_self _)
  ran := fun impossible => nomatch impossible
  kept := fun impossible => nomatch impossible

/-- The plan was followed to its end; the last statement may have failed. -/
theorem through (accepted : forall statement, statement ∈ Life.opening scope ++ [sql] ->
      rules.refusal? statement = none) (farewell : Life.Farewell extra)
    (unended : extra ≠ [] -> rules.refusal? (closingStatement keep) ≠ none)
    (kept : succeeded = true -> keep = true -> rules.refusal? (closingStatement keep) = none) :
    Course rules scope sql keep succeeded (planned scope sql keep) extra where
  part := List.prefix_refl _
  accepted := by
    rw [planned_eq, List.dropLast_concat]
    exact accepted
  farewell := farewell
  unended := fun more ended => unended more ended.2
  ran := by
    intro _
    rw [planned_eq]
    exact ⟨List.prefix_append _ _, accepted sql (List.mem_append.mpr (Or.inr List.mem_cons_self))⟩
  kept := fun succeeds keeps => ⟨rfl, kept succeeds keeps⟩

end Course

/-! ## Worlds in the course of a transaction -/

/-- A session that was opened since some world is at work, and nothing was committed since. -/
structure Underway (rules : Rules) (sqls : List String) (session : Session)
    (w w' : World Server Session) : Prop where
  owned : Owned (w.server.ledger.opened + 1) sqls session w'
  tame : Tame (rules.licence True).shut w'
  sameRules : w'.server.rules = rules
  opened : w'.server.ledger.opened = w.server.ledger.opened + 1
  committed : w'.server.ledger.committed = w.server.ledger.committed

/-- A session that was opened since some world was closed for good, and only this was committed. -/
structure Over (rules : Rules) (sqls work : List String) (w w' : World Server Session) :
    Prop where
  spent : Spent (w.server.ledger.opened + 1) sqls w'
  sameRules : w'.server.rules = rules
  opened : w'.server.ledger.opened = w.server.ledger.opened + 1
  committed : w'.server.ledger.committed = w.server.ledger.committed ++ work

/-- What the others do while the desk is quiet opens no session and commits nothing. -/
theorem World.Passage.hushed {before after : List Session}
    (passage : Passage (rules.licence True).shut before w after w')
    (tame : Tame (rules.licence True).shut w) (same : w.server.rules = rules) :
    w'.server.rules = rules ∧ w'.server.ledger.opened = w.server.ledger.opened ∧
      w'.server.ledger.committed = w.server.ledger.committed := by
  have conduct := passage.conduct tame
  refine ⟨conduct.rules.trans same, conduct.opened_eq fun enters => enters,
    conduct.committed_eq ?_⟩
  intro sql speaks
  exact same ▸ speaks True.intro

namespace Underway

theorem passage (under : Underway rules sqls session w w')
    (passed : Passage (rules.licence True).shut [] w' [] w'') :
    Underway rules sqls session w w'' := by
  rcases passed.hushed under.tame under.sameRules with ⟨rules', opened, committed⟩
  exact ⟨under.owned.passage under.tame passed, passed.tame under.tame, rules',
    opened.trans under.opened, committed.trans under.committed⟩

/-- A statement on a session without work commits nothing, whatever it is. -/
theorem say (under : Underway rules sqls session w w') (idle : session.pending = [])
    (sql : String) :
    Underway rules (sqls ++ [sql]) (rules.move session sql) w (w'.say sql session) := by
  have nothing : rules.delivery session sql = [] := by
    rw [Rules.delivery, idle, ite_self]
  refine ⟨under.sameRules ▸ under.owned.say sql,
    ⟨under.tame.ordered, under.tame.spoken, under.tame.prompt⟩, under.sameRules, under.opened, ?_⟩
  have said : (w'.say sql session).server.ledger.committed =
      w'.server.ledger.committed ++ w'.server.rules.delivery session sql := rfl
  rw [said, under.sameRules, nothing, List.append_nil, under.committed]

theorem rollback (under : Underway rules sqls session w w') (live : tx.phase = .live session) :
    exists result w'', tx.rollback w' = (result, tx.ending .rolledBack, w'') ∧
      Over rules (sqls ++ farewell w') [] w w'' := by
  have fits : (rules.licence True).shut.Fits w'.server.rules :=
    under.sameRules ▸ rules.shut_licence_fits True
  rcases rollback_of_live tx under.tame fits under.owned live
    with ⟨result, w'', rolled, passed, spent⟩
  rcases passed.hushed under.tame under.sameRules with ⟨rules', opened, committed⟩
  refine ⟨result, w'', rolled, spent, rules', opened.trans under.opened, ?_⟩
  rw [List.append_nil]
  exact committed.trans under.committed

/-- A commit keeps all the work of its session or nothing. -/
theorem commit (under : Underway rules sqls session w w') (live : tx.phase = .live session)
    (context : Context) :
    (exists tx' w'', tx.commit context w' = (.ok (), tx', w'') ∧
      rules.refusal? "COMMIT" = none ∧ Over rules (sqls ++ ["COMMIT"]) session.pending w w'') ∨
    (exists e tx' w'' run, tx.commit context w' = (.error e, tx', w'') ∧
      (run = [] ∨ run = ["COMMIT"] ∧ rules.refusal? "COMMIT" = some e) ∧
        Over rules (sqls ++ (run ++ farewell w')) [] w w'') := by
  have fits : (rules.licence True).shut.Fits w'.server.rules :=
    under.sameRules ▸ rules.shut_licence_fits True
  have outcome := commit_of_live under.tame fits under.owned live context
  generalize tx.commit context w' = answer at outcome ⊢
  cases outcome with
  | @committed w1 passed accepted owned =>
      have still := under.passage passed
      rw [under.sameRules] at accepted
      have said := owned.say "COMMIT"
      rw [still.sameRules] at said
      have delivered : rules.delivery session "COMMIT" = session.pending := by
        rw [Rules.delivery, accepted, if_pos ⟨rfl, Control.read_commit⟩]
      have same : (w1.say "COMMIT" session).close (rules.move session "COMMIT") =
          (w1.say "COMMIT" session).close session := close_move _ _ _ _
      refine Or.inl ⟨_, _, rfl, accepted, same ▸ said.close, still.sameRules, still.opened, ?_⟩
      have kept : ((w1.say "COMMIT" session).close session).server.ledger.committed =
          w1.server.ledger.committed ++ w1.server.rules.delivery session "COMMIT" := rfl
      rw [kept, still.sameRules, delivered, still.committed]
  | refused refused passed spent =>
      rcases passed.hushed under.tame under.sameRules with ⟨rules', opened, committed⟩
      refine Or.inr ⟨_, _, _, ["COMMIT"], rfl, Or.inr ⟨rfl, under.sameRules ▸ refused⟩, spent,
        rules', opened.trans under.opened, ?_⟩
      rw [List.append_nil]
      exact committed.trans under.committed
  | cut cause passed spent =>
      rcases passed.hushed under.tame under.sameRules with ⟨rules', opened, committed⟩
      refine Or.inr ⟨_, _, _, [], rfl, Or.inl rfl, spent, rules', opened.trans under.opened, ?_⟩
      rw [List.append_nil]
      exact committed.trans under.committed

end Underway

/-! ## What comes of a transaction for one statement -/

/-- One session was opened for a statement and closed after the plan had taken its course, and the
work of the statement was kept if it was to be kept and all went well. -/
structure Performed (rules : Rules) (scope : Scope) (sql : String) (keep succeeded : Bool)
    (w w' : World Server Session) : Prop where
  sameRules : w'.server.rules = rules
  opened : w'.server.ledger.opened = w.server.ledger.opened + 1
  course : exists followed extra, Course rules scope sql keep succeeded followed extra ∧
    Spent (w.server.ledger.opened + 1) (followed ++ extra) w'
  committed : w'.server.ledger.committed =
    w.server.ledger.committed ++ (if keep && succeeded then workOf sql else [])

/-- A plan that was left early keeps nothing. -/
theorem Performed.ofLeft (part : before ++ run <+: Life.opening scope ++ [sql])
    (accepted : forall statement, statement ∈ before -> rules.refusal? statement = none)
    (once : run.length ≤ 1) (farewell : Life.Farewell extra)
    (closed : Over rules ((before ++ run) ++ extra) [] w w') :
    Performed rules scope sql keep false w w' where
  sameRules := closed.sameRules
  opened := closed.opened
  course := ⟨_, _, .left part accepted once farewell, closed.spent⟩
  committed := by
    rw [Bool.and_false]
    exact closed.committed

/-- What comes of beginning a transaction for one statement. -/
inductive Started (rules : Rules) (scope : Scope) (w : World Server Session) :
    Except Error (Transaction Session) × World Server Session -> Prop
  | unopened {e : Error} : Started rules scope w (.error e, w)
  | failed {e : Error} {w' : World Server Session}
      (left : forall sql keep, Performed rules scope sql keep false w w') :
      Started rules scope w (.error e, w')
  | begun {session : Session} {w' : World Server Session}
      (accepted : forall sql, sql ∈ Life.opening scope -> rules.refusal? sql = none)
      (under : Underway rules (Life.opening scope) session w w') (idle : session.pending = []) :
      Started rules scope w (.ok ⟨scope, .live session⟩, w')

theorem Transaction.Failing.length_le {operation : String} {e : Error}
    (failing : Failing rules operation sql e run) : run.length ≤ 1 := by
  cases failing <;> simp

/-- A statement that failed is the next of the plan, if it was run at all. -/
theorem Transaction.Failing.prefix_cons {operation : String} {e : Error}
    (failing : Failing rules operation sql e run) (after : List String) : run <+: sql :: after := by
  cases failing with
  | cut cause => exact List.nil_prefix
  | refused refused => exact List.prefix_append [sql] after

theorem begin_started (tame : Tame (rules.licence True).shut w) (same : w.server.rules = rules)
    (numbered : (w.circulation []).Numbered) (context : Context) (connector : Connector)
    (scope : Scope) : Started rules scope w (begin context connector scope w) := by
  have fits : (rules.licence True).shut.Fits w.server.rules :=
    same ▸ rules.shut_licence_fits True
  have outcome := begin_cases tame fits numbered context connector scope
  have tame' : Tame (rules.licence True).shut w.entered :=
    ⟨tame.ordered, tame.spoken, tame.prompt⟩
  generalize begin context connector scope w = answer at outcome ⊢
  cases outcome with
  | faulty fault => exact .unopened
  | unconnected sound failed => exact .unopened
  | @unbegun e run w' sound failing passed spent =>
      rcases passed.hushed tame' same with ⟨rules', opened, committed⟩
      apply Started.failed
      intro sql keep
      have part : [] ++ run <+: Life.opening scope ++ [sql] := failing.prefix_cons _
      refine .ofLeft part (by rintro _ ⟨⟩) failing.length_le
        (Or.inl rfl) ⟨?_, rules', opened, ?_⟩
      · rw [List.append_nil]
        exact spent
      · rw [List.append_nil]
        exact committed
  | @unplaced e before after run failed w' sound split accepted failing passed spent =>
      rcases passed.hushed tame' same with ⟨rules', opened, committed⟩
      rw [← List.append_assoc before, ← List.cons_append, ← List.cons_append] at spent
      apply Started.failed
      intro sql keep
      refine .ofLeft ?_ (same ▸ accepted) failing.length_le (farewell_cases w)
        ⟨spent, rules', opened, ?_⟩
      · rw [Life.opening, split, ← List.cons_append, List.append_assoc]
        exact (List.prefix_append_right_inj _).mpr (failing.prefix_cons _)
      · rw [List.append_nil]
        exact committed
  | @begun session w' sound accepted passed owned =>
      rcases passed.hushed tame' same with ⟨rules', opened, committed⟩
      refine .begun (same ▸ accepted) ⟨owned, passed.tame tame', rules', opened, committed⟩ ?_
      have life : Life.Regular rules True ⟨none, scope, [], none⟩ :=
        ⟨sound, same ▸ accepted, by rintro _ ⟨⟩, by rintro _ _ ⟨⟩⟩
      have pending := Life.pending_eq life True.intro (w.server.ledger.opened + 1)
      rw [Life.texts, List.map_nil, List.append_nil] at pending
      rw [owned.state, rules']
      exact pending

/-- A session without work has only the work of the next statement that succeeds. -/
theorem pending_follow (idle : session.pending = []) (sql : String) :
    (session.follow sql).pending = workOf sql := by
  rw [Session.follow, workOf]
  split <;> simp_all

/-- A statement is attempted on the session, and either it was not accepted or it succeeded. -/
theorem Underway.attempt {α : Type} {operation : String}
    {answer : Except Error α × Session × World Server Session}
    (under : Underway rules sqls session w w') (idle : session.pending = [])
    (attempt : Attempt (rules.licence True).shut operation sql session w' answer) :
    (exists e w'' run, answer = (.error e, session, w'') ∧ run.length ≤ 1 ∧ run <+: [sql] ∧
      Underway rules (sqls ++ run) session w w'') ∨
    (exists value w'', answer = (.ok value, session.follow sql, w'') ∧
      rules.refusal? sql = none ∧ Underway rules (sqls ++ [sql]) (session.follow sql) w w'') := by
  cases attempt with
  | @cut w1 e passed cause =>
      refine Or.inl ⟨e, w1, [], rfl, Nat.zero_le _, List.nil_prefix, ?_⟩
      rw [List.append_nil]
      exact under.passage passed
  | @refused w1 e passed refused =>
      have said := (under.passage passed).say idle sql
      rw [Rules.move_of_refused (under.sameRules ▸ refused)] at said
      exact Or.inl ⟨e, _, [sql], rfl, Nat.le_refl _, List.prefix_refl _, said⟩
  | @done w1 value passed accepted =>
      have accepted' : rules.refusal? sql = none := under.sameRules ▸ accepted
      have said := (under.passage passed).say idle sql
      rw [Rules.move_of_accepted accepted'] at said
      exact Or.inr ⟨value, _, rfl, accepted', said⟩

/-- A transaction is rolled back after its statement failed. -/
theorem Underway.leave (tx : Transaction Session)
    (under : Underway rules (Life.opening scope ++ run) session w w')
    (accepted : forall sql, sql ∈ Life.opening scope -> rules.refusal? sql = none)
    (once : run.length ≤ 1) (next : run <+: [sql]) (live : tx.phase = .live session) :
    Performed rules scope sql keep false w (tx.rollback w').2.2 := by
  rcases under.rollback live with ⟨result, w2, rolled, closed⟩
  rw [rolled]
  exact .ofLeft ((List.prefix_append_right_inj _).mpr next) accepted once (farewell_cases w') closed

/-- The plan up to its statement was accepted. -/
theorem accepted_concat
    (accepted : forall sql, sql ∈ Life.opening scope -> rules.refusal? sql = none)
    (ran : rules.refusal? sql = none) :
    forall statement, statement ∈ Life.opening scope ++ [sql] ->
      rules.refusal? statement = none := by
  intro statement member
  rcases List.mem_append.mp member with member | member
  · exact accepted statement member
  · rw [List.mem_singleton.mp member]
    exact ran

/-- The rollback after a statement that was only to read is the end of the plan, unless it would
have taken too long. -/
theorem Underway.endReading (under : Underway rules (Life.opening scope ++ [sql]) session w w')
    (accepted : forall sql, sql ∈ Life.opening scope -> rules.refusal? sql = none)
    (ran : rules.refusal? sql = none) (live : tx.phase = .live session) :
    Performed rules scope sql false succeeded w (tx.rollback w').2.2 := by
  rcases under.rollback live with ⟨result, w2, rolled, closed⟩
  have spent := closed.spent
  rw [rolled]
  refine ⟨closed.sameRules, closed.opened, ?_, closed.committed⟩
  rcases farewell_cases w' with none | rolls
  · rw [none] at spent
    refine ⟨Life.opening scope ++ [sql], [], ?_, spent⟩
    exact
      { part := Course.planned_eq scope sql false ▸ List.prefix_append _ _
        accepted := by
          rw [List.dropLast_concat]
          exact accepted
        farewell := Or.inl rfl
        unended := fun more => absurd rfl more
        ran := fun _ => ⟨List.prefix_refl _, ran⟩
        kept := fun _ keeps => nomatch keeps }
  · rw [rolls] at spent
    refine ⟨planned scope sql false, [], .through (accepted_concat accepted ran) (Or.inl rfl)
      (fun more => absurd rfl more) (fun _ keeps => nomatch keeps), ?_⟩
    rw [List.append_nil, Course.planned_eq]
    exact spent

/-- After a statement whose work is to be kept, the commit is the end of the plan. -/
theorem Underway.endWriting {α : Type} {value : α}
    (under : Underway rules (Life.opening scope ++ [sql]) session w w')
    (accepted : forall sql, sql ∈ Life.opening scope -> rules.refusal? sql = none)
    (ran : rules.refusal? sql = none) (work : session.pending = workOf sql)
    (live : tx.phase = .live session) (context : Context) :
    Performed rules scope sql true (tx.finish context (.ok value) w').1.isOk w
      (tx.finish context (.ok value) w').2.2 := by
  have whole := accepted_concat accepted ran
  rw [finish]
  rcases under.commit live context
    with ⟨tx', w2, committed, accepts, closed⟩ | ⟨e, tx', w2, run, failed, sent, closed⟩
  · rw [committed]
    refine ⟨closed.sameRules, closed.opened, ⟨planned scope sql true, [], .through whole
      (Or.inl rfl) (fun more => absurd rfl more) (fun _ _ => accepts), ?_⟩, ?_⟩
    · rw [List.append_nil, Course.planned_eq]
      exact closed.spent
    · simp only [closed.committed, work, Except.isOk, Except.toBool, Bool.and_self, if_true]
  · rw [failed]
    rw [← List.append_assoc] at closed
    rcases sent with rfl | ⟨rfl, refused⟩
    · have part : (Life.opening scope ++ [sql]) ++ [] <+: Life.opening scope ++ [sql] := by simp
      exact .ofLeft part whole (Nat.zero_le _) (farewell_cases w') closed
    · refine ⟨closed.sameRules, closed.opened, ⟨planned scope sql true, farewell w', .through whole
        (farewell_cases w') ?_ (fun impossible => nomatch impossible), ?_⟩, closed.committed⟩
      · intro _ accepts
        exact nomatch refused.symm.trans accepts
      · rw [Course.planned_eq]
        exact closed.spent

/-! ## Reading and writing -/

/-- A transaction that reads opens nothing, or it takes its course and keeps nothing. -/
theorem beginReadOnly_performed (tame : Tame (rules.licence True).shut w)
    (same : w.server.rules = rules) (numbered : (w.circulation []).Numbered) (context : Context)
    (connector : Connector) (scope : Scope) (sql : String) (format : Format) :
    let answer := beginReadOnly context connector scope
      (fun tx w => tx.queryText context sql format w) w
    (exists e, answer = (.error e, w)) ∨
      Performed rules scope sql false answer.1.isOk w answer.2 := by
  intro answer
  have started := begin_started tame same numbered context connector scope
  simp only [answer, beginReadOnly]
  generalize begin context connector scope w = begun at started
  cases started with
  | unopened => exact Or.inl ⟨_, rfl⟩
  | failed left => exact Or.inr (left sql false)
  | @begun session w' accepted under idle =>
      apply Or.inr
      simp only [readOnly, queryText, Transaction.query]
      rcases under.attempt idle (queryIn_attempt under.tame context "query" sql session)
        with ⟨e, w2, run, outcome, once, next, under'⟩ | ⟨set, w2, outcome, ran, under'⟩
      · rw [outcome]
        exact Underway.leave ⟨scope, .live session⟩ under' accepted once next rfl
      · rw [outcome]
        exact under'.endReading accepted ran rfl

/-- A transaction that writes opens nothing, or it takes its course and keeps the work of its
statement exactly if it succeeds. -/
theorem beginWrite_performed (tame : Tame (rules.licence True).shut w)
    (same : w.server.rules = rules) (numbered : (w.circulation []).Numbered) (context : Context)
    (connector : Connector) (scope : Scope) (sql : String) :
    let answer := beginWrite context connector scope (fun tx w => tx.execute context sql w) w
    (exists e, answer = (.error e, w)) ∨
      Performed rules scope sql true answer.1.isOk w answer.2 := by
  intro answer
  have started := begin_started tame same numbered context connector scope
  simp only [answer, beginWrite]
  generalize begin context connector scope w = begun at started
  cases started with
  | unopened => exact Or.inl ⟨_, rfl⟩
  | failed left => exact Or.inr (left sql true)
  | @begun session w' accepted under idle =>
      apply Or.inr
      simp only [write, Transaction.execute, executeAs]
      rcases under.attempt idle (executeIn_attempt under.tame context "exec" sql session)
        with ⟨e, w2, run, outcome, once, next, under'⟩ | ⟨count, w2, outcome, ran, under'⟩
      · rw [outcome]
        exact Underway.leave ⟨scope, .live session⟩ under' accepted once next rfl
      · rw [outcome]
        exact under'.endWriting accepted ran (pending_follow idle sql) rfl context

end ScopedSql
