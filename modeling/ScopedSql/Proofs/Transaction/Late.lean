import ScopedSql.Proofs.Transaction.Course
import ScopedSql.Proofs.Transaction.Footprint
import ScopedSql.Proofs.Transaction.Resolution
import ScopedSql.Proofs.World.Late

namespace ScopedSql

open Scripted World Transaction

/-!
# Transactions after a deadline

Every call needs some statements to be run in order.  A call that is made after
its deadline sends them as long as they take no time, and ends at the first one
that does.  Then it fails and keeps nothing.
-/

variable {rules : Rules} {context : Context} {connector : Connector} {scope : Scope}
  {needed sqls sent rest done : List String} {operation sql : String} {number deadline : Nat}
  {session : Session} {tx : Transaction Session} {w w' w'' : World Server Session} {α β : Type}

/-! ## Belated calls -/

/-- None of the statements takes any time. -/
def Scripted.Rules.Instant (rules : Rules) (sqls : List String) : Prop :=
  forall sql, sql ∈ sqls -> rules.delay sql = 0

/-- Of the statements that are needed, only the first ones were sent, and these take no time.  At
most a rollback came after them.  All that was run besides was run in the background. -/
structure Curtailed (rules : Rules) (needed sent rest : List String) (number : Nat)
    (w w' : World Server Session) : Prop where
  part : sent <+: needed
  instant : rules.Instant sent
  farewell : Life.Farewell rest
  log : exists entries, w'.server.log number = w.server.log number ++ entries ∧
    entries.map Entry.sql = sent ++ rest
  others : w.server.RunsOn (w.OwnOrBusy number) w'.server

/-- What comes of a call that is made too late.  If any of the statements that it needs takes time,
it fails and nothing becomes durable. -/
structure Belated (rules : Rules) (needed : List String) (w : World Server Session)
    (answer : Except Error α × World Server Session) : Prop where
  curtailed : exists sent rest number, Curtailed rules needed sent rest number w answer.2
  stopped : ¬ rules.Instant needed -> answer.1.isOk = false ∧
    answer.2.server.ledger.committed = w.server.ledger.committed

namespace Scripted.Rules.Instant

theorem nil : rules.Instant [] :=
  fun _ member => nomatch member

theorem singleton (instant : rules.delay sql = 0) : rules.Instant [sql] := by
  intro statement member
  rw [List.mem_singleton.mp member]
  exact instant

theorem append (first : rules.Instant sqls) (second : rules.Instant sent) :
    rules.Instant (sqls ++ sent) := by
  intro statement member
  rcases List.mem_append.mp member with member | member
  · exact first statement member
  · exact second statement member

end Scripted.Rules.Instant

namespace Belated

/-- A call that fails at once does nothing. -/
theorem unsent {e : Error} : Belated rules needed w ((.error e : Except Error α), w) where
  curtailed := ⟨[], [], 0, List.nil_prefix, .nil, Or.inl rfl,
    ⟨[], (List.append_nil _).symm, rfl⟩, .of_entries_eq rfl⟩
  stopped := fun _ => ⟨rfl, rfl⟩

/-- What a caller makes of an outcome does not change what was sent. -/
theorem bind {result : Except Error α} (belated : Belated rules needed w (result, w'))
    (next : α -> Except Error β) : Belated rules needed w (result.bind next, w') where
  curtailed := belated.curtailed
  stopped := by
    intro slow
    rcases belated.stopped slow with ⟨failed, unkept⟩
    cases result with
    | error e => exact ⟨rfl, unkept⟩
    | ok value => cases failed

theorem map {result : Except Error α} (belated : Belated rules needed w (result, w'))
    (f : α -> β) : Belated rules needed w (result.map f, w') := by
  have bound := belated.bind (fun value => .ok (f value))
  cases result <;> exact bound

end Belated

/-! ## Calls on a live transaction -/

/-- What is in time after the deadline takes no time. -/
theorem delay_of_inTime (same : w.server.rules = rules) (given : context.deadline = some deadline)
    (passed : deadline ≤ w.now)
    (inTime : w.delay sql = 0 ∨
      forall limit, context.deadline = some limit -> w.now + w.delay sql ≤ limit) :
    rules.delay sql = 0 := by
  rw [← delay_eq same]
  rcases inTime with zero | inTime
  · exact zero
  · have bound := inTime deadline given
    omega

/-- An honest answer after the deadline is that of a belated call. -/
theorem Candid.belated {own : Except Error α}
    {answer : Except Error α × Transaction Session × World Server Session}
    (candid : Candid rules context operation sql tx session w own answer)
    (same : w.server.rules = rules) (given : context.deadline = some deadline)
    (passed : deadline ≤ w.now) : Belated rules [sql] w (answer.1, answer.2.2) := by
  by_cases cut : Interrupted answer.1
  · have undone := candid.undone cut
    refine ⟨⟨[], [], session.number, List.nil_prefix, .nil, Or.inl rfl, ?_, ?_⟩, ?_⟩
    · exact ⟨[], undone.log.trans (List.append_nil _).symm, rfl⟩
    · exact undone.others.mono fun _ busy => Or.inr busy.2
    · intro _
      rcases cut with ⟨e, failed, _⟩
      exact ⟨by rw [failed]; rfl, undone.committed⟩
  · have carried := candid.carried cut
    have instant := delay_of_inTime same given passed carried.inTime
    rcases carried.last with ⟨waited, last, others⟩
    refine ⟨⟨[sql], [], session.number, List.prefix_refl _, .singleton instant, Or.inl rfl, ?_, ?_⟩,
      ?_⟩
    · exact ⟨[session.entry sql], carried.once, rfl⟩
    · rw [last]
      have said : waited.server.RunsOn (w.OwnOrBusy session.number)
          (waited.say sql session).server := by
        refine ⟨[session.entry sql], rfl, ?_⟩
        intro entry member
        rw [List.mem_singleton.mp member]
        exact Or.inl rfl
      exact (others.mono fun _ busy => Or.inr busy.2).trans said
    · exact fun slow => absurd (.singleton instant) slow

theorem Transaction.commit_belated (exclusive : Exclusive rules session w)
    (live : tx.phase = .live session) (given : context.deadline = some deadline)
    (passed : deadline ≤ w.now) :
    Belated rules ["COMMIT"] w ((tx.commit context w).1, (tx.commit context w).2.2) := by
  have keeps : tx.KeepsTo (w.OwnOrBusy session.number) := by
    intro own live'
    cases live.symm.trans live'
    exact Or.inl rfl
  have others := (commit_progress (rules.licence True).shut keeps context w).1.runs
    (exclusive.tame.ownOrBusy session.number)
  have committal := commit_committal exclusive live context
  generalize tx.commit context w = answer at committal others ⊢
  cases committal with
  | @cut e result tx' w1 w2 meanwhile cause waited released =>
      refine ⟨⟨[], farewell w1, session.number, List.nil_prefix, .nil, farewell_cases w1, ?_,
        others⟩, ?_⟩
      · refine ⟨_, ?_, Rules.transcript_sql rules session (farewell w1)⟩
        rw [released.log, meanwhile.log]
      · exact fun _ => ⟨rfl, released.committed.trans meanwhile.committed⟩
  | @committed w1 meanwhile inTime accepted =>
      have instant := delay_of_inTime exclusive.sameRules given passed inTime
      have once := (meanwhile.say exclusive.sameRules "COMMIT").1
      refine ⟨⟨["COMMIT"], [], session.number, List.prefix_refl _, .singleton instant,
        Or.inl rfl, ?_, others⟩, fun slow => absurd (.singleton instant) slow⟩
      exact ⟨_, once, rfl⟩
  | @refused e result tx' w1 w2 meanwhile inTime refused released =>
      have instant := delay_of_inTime exclusive.sameRules given passed inTime
      have once := (meanwhile.say exclusive.sameRules "COMMIT").1
      refine ⟨⟨["COMMIT"], farewell (w1.say "COMMIT" session), session.number,
        List.prefix_refl _, .singleton instant, farewell_cases _, ?_, others⟩,
        fun slow => absurd (.singleton instant) slow⟩
      have log := released.log
      rw [once, List.append_assoc] at log
      refine ⟨_, log, ?_⟩
      rw [List.map_append, Rules.transcript_sql]
      rfl

/-! ## Transactions from their beginning -/

/-- What comes of a statement on a new session: it is cut off and changes nothing, or it takes no
time and is run. -/
inductive Underway.Step (rules : Rules) (context : Context) (sqls : List String) (sql : String)
    (session : Session) (w w' : World Server Session) :
    Except Error α × Session × World Server Session -> Prop
  | cut {e : Error} : Step rules context sqls sql session w w' (.error e, session, w')
  | ran {result : Except Error α} (instant : rules.delay sql = 0)
      (under : Underway rules (sqls ++ [sql]) (rules.move session sql) w (w'.say sql session))
      (late : Late context (w'.say sql session)) :
      Step rules context sqls sql session w w'
        (result, rules.move session sql, w'.say sql session)

namespace Underway

theorem step {answer : Except Error α × Session × World Server Session}
    (under : Underway rules sqls session w w') (idle : session.pending = [])
    (late : Late context w') (tried : Tried sql session w' answer) :
    Step rules context sqls sql session w w' answer := by
  cases tried with
  | cut => exact .cut
  | ran instant =>
      rw [delay_eq under.sameRules] at instant
      rw [under.sameRules]
      exact .ran instant (under.say idle sql) (late.of_same rfl rfl)

end Underway

/-- A statement that is no work leaves nothing to be committed, whatever comes of it. -/
theorem pending_move (idle : session.pending = []) (workless : workOf sql = []) :
    (rules.move session sql).pending = [] := by
  cases refused : rules.refusal? sql with
  | some e =>
      rw [Rules.move_of_refused refused]
      exact idle
  | none =>
      rw [Rules.move_of_accepted refused, pending_follow idle, workless]

theorem workOf_opening (sound : scope.fault? = none) :
    forall sql, sql ∈ Life.opening scope -> workOf sql = [] := by
  intro sql member
  rcases List.mem_cons.mp member with rfl | member
  · decide +kernel
  · rcases Scope.read_of_mem_positions sound member
      with ⟨name, _, read⟩ | ⟨name, _, read⟩ <;> simp [workOf, read]

/-- What comes of putting a new transaction on its scope too late. -/
inductive Hasty (rules : Rules) (context : Context) (scope : Scope) (done sqls : List String)
    (w : World Server Session) : Except Error (Transaction Session) × World Server Session -> Prop
  | failed {e : Error} {sent rest : List String} {w' : World Server Session}
      (part : sent <+: sqls) (instant : rules.Instant sent) (farewell : Life.Farewell rest)
      (finished : Over rules ((done ++ sent) ++ rest) [] w w') :
      Hasty rules context scope done sqls w (.error e, w')
  | placed {session : Session} {w' : World Server Session} (instant : rules.Instant sqls)
      (under : Underway rules (done ++ sqls) session w w') (idle : session.pending = [])
      (late : Late context w') :
      Hasty rules context scope done sqls w (.ok ⟨scope, .live session⟩, w')

/-- A statement that takes no time may come before the others. -/
theorem Hasty.cons {answer : Except Error (Transaction Session) × World Server Session}
    (instant : rules.delay sql = 0)
    (hasty : Hasty rules context scope (done ++ [sql]) sqls w answer) :
    Hasty rules context scope done (sql :: sqls) w answer := by
  have first : rules.Instant [sql] := .singleton instant
  cases hasty with
  | failed part others farewell finished =>
      rw [List.append_assoc done] at finished
      exact .failed ((List.prefix_append_right_inj [sql]).mpr part) (first.append others) farewell
        finished
  | placed others under idle late =>
      rw [List.append_assoc] at under
      exact .placed (first.append others) under idle late

namespace Transaction

theorem bootstrap_hasty (scope : Scope) (under : Underway rules done session w w')
    (idle : session.pending = []) (late : Late context w')
    (workless : forall sql, sql ∈ sqls -> workOf sql = []) :
    Hasty rules context scope done sqls w (bootstrap ⟨scope, .live session⟩ context sqls w') := by
  induction sqls generalizing done session w' with
  | nil => exact .placed .nil (by rwa [List.append_nil]) idle late
  | cons sql rest inductionHypothesis =>
      have step := under.step idle late (late.executeIn_tried "bootstrap" sql session)
      rw [bootstrap, executeAs]
      simp only
      generalize w'.executeIn context "bootstrap" sql session = answer at step ⊢
      cases step with
      | @cut e =>
          rcases under.rollback (rfl : (withSession ⟨scope, .live session⟩ session).phase = _)
            with ⟨result, w2, rolled, finished⟩
          simp only [rolled]
          refine .failed List.nil_prefix .nil (farewell_cases w') ?_
          rwa [List.append_nil]
      | @ran result instant under' late' =>
          cases result with
          | error e =>
              rcases under'.rollback
                (rfl : (withSession ⟨scope, .live session⟩ (rules.move session sql)).phase = _)
                with ⟨result, w2, rolled, finished⟩
              simp only [rolled]
              exact .failed (List.prefix_append [sql] rest) (.singleton instant)
                (farewell_cases _) finished
          | ok count =>
              have idle' : (rules.move session sql).pending = [] :=
                pending_move idle (workless sql List.mem_cons_self)
              have others := inductionHypothesis under' idle' late'
                fun statement member => workless statement (List.mem_cons_of_mem _ member)
              exact others.cons instant

/-- Too late, a transaction is not opened, or its session takes the statements of its opening as
far as they take no time. -/
theorem begin_hasty (late : Late context w) (tame : Tame (rules.licence True).shut w)
    (same : w.server.rules = rules) (numbered : (w.circulation []).Numbered)
    (connector : Connector) (scope : Scope) :
    (exists e, begin context connector scope w = (.error e, w)) ∨
      Hasty rules context scope [] (Life.opening scope) w (begin context connector scope w) := by
  rw [begin, scope.statements_eq]
  cases fault : scope.fault? with
  | some e => exact Or.inl ⟨e, rfl⟩
  | none =>
      rcases connectIn_cases w context connector.target with ⟨e, failed⟩ | opened
      · simp only [failed]
        exact Or.inl ⟨e, rfl⟩
      · apply Or.inr
        have under : Underway rules [] (Session.fresh (w.server.ledger.opened + 1)) w w.entered :=
          ⟨.opened numbered, ⟨tame.ordered, tame.spoken, tame.prompt⟩, same, rfl, rfl⟩
        have workless := workOf_opening fault
        have entered : Late context w.entered := late.of_same rfl rfl
        have step := under.step rfl entered (entered.executeIn_tried "begin" "START TRANSACTION" _)
        simp only [opened]
        generalize w.entered.executeIn context "begin" "START TRANSACTION"
          (Session.fresh (w.server.ledger.opened + 1)) = answer at step ⊢
        have closed : forall {sqls session w'}, Underway rules sqls session w w' ->
            Over rules sqls [] w (w'.close session) := by
          intro sqls session w' under
          exact ⟨under.owned.close, under.sameRules, under.opened, by
            rw [List.append_nil]
            exact under.committed⟩
        cases step with
        | @cut e =>
            have finished : Over rules (([] ++ []) ++ []) [] w _ := closed under
            exact .failed List.nil_prefix .nil (Or.inl rfl) finished
        | @ran result instant under' late' =>
            cases result with
            | error e =>
                have finished : Over rules (([] ++ ["START TRANSACTION"]) ++ []) [] w _ :=
                  closed under'
                exact .failed (List.prefix_append [_] scope.positions) (.singleton instant)
                  (Or.inl rfl) finished
            | ok count =>
                have idle' : (rules.move (Session.fresh (w.server.ledger.opened + 1))
                    "START TRANSACTION").pending = [] :=
                  pending_move rfl (workless _ List.mem_cons_self)
                have others := bootstrap_hasty scope under' idle' late'
                  fun statement member => workless statement (List.mem_cons_of_mem _ member)
                exact others.cons instant

/-! ## Whole transactions -/

/-- A commit is tried after the deadline.  It is cut off if it takes time, and then nothing is
kept. -/
theorem commit_late (under : Underway rules sqls session w w') (late : Late context w')
    (live : tx.phase = .live session) :
    exists run rest, rules.Instant run ∧ run <+: ["COMMIT"] ∧ Life.Farewell rest ∧
      Spent (w.server.ledger.opened + 1) ((sqls ++ run) ++ rest) (tx.commit context w').2.2 ∧
      (run = [] -> (tx.commit context w').1.isOk = false ∧
        (tx.commit context w').2.2.server.ledger.committed = w.server.ledger.committed) := by
  have fits : (rules.licence True).shut.Fits w'.server.rules :=
    under.sameRules ▸ rules.shut_licence_fits True
  have tried := late.executeIn_tried "commit" "COMMIT" session
  rw [commit, live]
  simp only
  generalize w'.executeIn context "commit" "COMMIT" session = answer at tried ⊢
  cases tried with
  | @cut e =>
      rcases under.rollback (rfl : (tx.withSession session).phase = _)
        with ⟨result, w2, rolled, finished⟩
      simp only [rolled]
      refine ⟨[], farewell w', .nil, List.nil_prefix, farewell_cases w', ?_, fun _ => ⟨rfl, ?_⟩⟩
      · rw [List.append_nil]
        exact finished.spent
      · exact finished.committed.trans (List.append_nil _)
  | @ran result instant =>
      rw [delay_eq under.sameRules] at instant
      have said := under.owned.say "COMMIT"
      have once : rules.Instant ["COMMIT"] := .singleton instant
      cases result with
      | error e =>
          have tame : Tame (rules.licence True).shut (w'.say "COMMIT" session) :=
            ⟨under.tame.ordered, under.tame.spoken, under.tame.prompt⟩
          rcases rollback_of_live (tx.withSession (w'.server.rules.move session "COMMIT")) tame
            fits said rfl
            with ⟨result, w2, rolled, passed, spent⟩
          simp only [rolled]
          exact ⟨["COMMIT"], _, once, List.prefix_refl _, farewell_cases _, spent,
            fun none => absurd none (List.cons_ne_nil _ _)⟩
      | ok count =>
          refine ⟨["COMMIT"], [], once, List.prefix_refl _, Or.inl rfl, ?_,
            fun none => absurd none (List.cons_ne_nil _ _)⟩
          rw [List.append_nil]
          exact said.close

/-- A call that opens a session sends all its statements there. -/
theorem belated_of_opened {result : Except Error α} (numbered : (w.circulation []).Numbered)
    (texts : (w'.server.log (w.server.ledger.opened + 1)).map Entry.sql = sent ++ rest)
    (part : sent <+: needed) (instant : rules.Instant sent) (farewell : Life.Farewell rest)
    (others : w.server.RunsOn (w.OwnOrBusy (w.server.ledger.opened + 1)) w'.server)
    (stopped : ¬ rules.Instant needed -> result.isOk = false ∧
      w'.server.ledger.committed = w.server.ledger.committed) :
    Belated rules needed w (result, w') := by
  have silent : w.server.log (w.server.ledger.opened + 1) = [] :=
    (numbered.silent _ (Nat.lt_succ_self _)).1
  refine ⟨⟨sent, rest, _, part, instant, farewell, ?_, others⟩, stopped⟩
  exact ⟨_, by rw [silent, List.nil_append], texts⟩

/-- A call that failed after it had opened a session kept nothing. -/
theorem belated_of_over {e : Error} (numbered : (w.circulation []).Numbered)
    (finished : Over rules (sent ++ rest) [] w w') (part : sent <+: needed)
    (instant : rules.Instant sent) (farewell : Life.Farewell rest)
    (others : w.server.RunsOn (w.OwnOrBusy (w.server.ledger.opened + 1)) w'.server) :
    Belated rules needed w ((.error e : Except Error α), w') := by
  refine belated_of_opened numbered ?_ part instant farewell others fun _ => ⟨rfl, ?_⟩
  · rw [finished.spent.log, Rules.transcript_sql]
  · exact finished.committed.trans (List.append_nil _)

section Calls

variable (late : Late context w) (tame : Tame (rules.licence True).shut w)
  (same : w.server.rules = rules) (numbered : (w.circulation []).Numbered)
include late tame same numbered

theorem begin_belated (connector : Connector) (scope : Scope) :
    Belated rules (Life.opening scope) w (begin context connector scope w) := by
  have progress : Progress (rules.licence True).shut (w.OwnOrBusy (w.server.ledger.opened + 1)) w
      (begin context connector scope w).2 :=
    (begin_progress _ (Or.inl rfl) context connector scope).1
  have others := progress.runs (tame.ownOrBusy _)
  rcases begin_hasty late tame same numbered connector scope with ⟨e, unopened⟩ | hasty
  · rw [unopened]
    exact .unsent
  · generalize begin context connector scope w = answer at hasty others ⊢
    cases hasty with
    | failed part instant farewell finished =>
        exact belated_of_over numbered finished part instant farewell others
    | @placed session w' instant under idle late' =>
        have texts : (w'.server.log (w.server.ledger.opened + 1)).map Entry.sql =
            Life.opening scope ++ [] := by
          rw [under.owned.log, Rules.transcript_sql, List.append_nil]
          rfl
        exact belated_of_opened numbered texts (List.prefix_refl _) instant (Or.inl rfl) others
          fun slow => absurd instant slow

theorem beginReadOnly_belated (connector : Connector) (scope : Scope) (sql : String)
    (format : Format) :
    Belated rules (Life.opening scope ++ [sql]) w (beginReadOnly context connector scope
      (fun tx w => tx.queryText context sql format w) w) := by
  have works : Body.KeepsTo (rules.licence True).shut (w.OwnOrBusy (w.server.ledger.opened + 1))
      (fun tx w => tx.queryText context sql format w) :=
    fun tx w keeps => query_progress _ keeps context sql w
  have progress : Progress (rules.licence True).shut (w.OwnOrBusy (w.server.ledger.opened + 1)) w
      (beginReadOnly context connector scope (fun tx w => tx.queryText context sql format w) w).2 :=
    beginReadOnly_progress _ (Or.inl rfl) works
  have others := progress.runs (tame.ownOrBusy _)
  rcases begin_hasty late tame same numbered connector scope with ⟨e, unopened⟩ | hasty
  · rw [beginReadOnly, unopened]
    exact .unsent
  · rw [beginReadOnly] at others ⊢
    generalize begin context connector scope w = begun at hasty others ⊢
    cases hasty with
    | failed part instant farewell finished =>
        exact belated_of_over numbered finished (part.trans (List.prefix_append _ _)) instant
          farewell others
    | @placed session w' instant under idle late' =>
        have step := under.step idle late' (late'.queryIn_tried "query" sql session)
        simp only [readOnly, queryText, Transaction.query] at others ⊢
        generalize w'.queryIn context "query" sql session = answer at step others ⊢
        cases step with
        | @cut e =>
            rcases under.rollback (rfl : (withSession ⟨scope, .live session⟩ session).phase = _)
              with ⟨result, w2, rolled, finished⟩
            simp only [rolled] at others ⊢
            exact belated_of_over numbered finished (List.prefix_append _ _) instant
              (farewell_cases w') others
        | @ran result instant' under' late2 =>
            rcases under'.rollback
              (rfl : (withSession ⟨scope, .live session⟩ (rules.move session sql)).phase = _)
              with ⟨ending, w2, rolled, finished⟩
            have whole := instant.append (.singleton instant')
            simp only [rolled] at others ⊢
            have texts : (w2.server.log (w.server.ledger.opened + 1)).map Entry.sql =
                (Life.opening scope ++ [sql]) ++ farewell (w'.say sql session) := by
              rw [finished.spent.log, Rules.transcript_sql]
              rfl
            exact belated_of_opened numbered texts (List.prefix_refl _) whole (farewell_cases _)
              others fun slow => absurd whole slow

theorem beginWrite_belated (connector : Connector) (scope : Scope) (sql : String) :
    Belated rules ((Life.opening scope ++ [sql]) ++ ["COMMIT"]) w
      (beginWrite context connector scope (fun tx w => tx.execute context sql w) w) := by
  have works : Body.KeepsTo (rules.licence True).shut (w.OwnOrBusy (w.server.ledger.opened + 1))
      (fun tx w => tx.execute context sql w) :=
    fun tx w keeps => executeAs_progress _ keeps context "exec" sql w
  have progress : Progress (rules.licence True).shut (w.OwnOrBusy (w.server.ledger.opened + 1)) w
      (beginWrite context connector scope (fun tx w => tx.execute context sql w) w).2 :=
    beginWrite_progress _ (Or.inl rfl) works
  have others := progress.runs (tame.ownOrBusy _)
  rcases begin_hasty late tame same numbered connector scope with ⟨e, unopened⟩ | hasty
  · rw [beginWrite, unopened]
    exact .unsent
  · rw [beginWrite] at others ⊢
    generalize begin context connector scope w = begun at hasty others ⊢
    have before : Life.opening scope <+: (Life.opening scope ++ [sql]) ++ ["COMMIT"] :=
      (List.prefix_append _ _).trans (List.prefix_append _ _)
    cases hasty with
    | failed part instant farewell finished =>
        exact belated_of_over numbered finished (part.trans before) instant farewell others
    | @placed session w' instant under idle late' =>
        have step := under.step idle late' (late'.executeIn_tried "exec" sql session)
        simp only [write, Transaction.execute, executeAs] at others ⊢
        generalize w'.executeIn context "exec" sql session = answer at step others ⊢
        cases step with
        | @cut e =>
            rcases under.rollback (rfl : (withSession ⟨scope, .live session⟩ session).phase = _)
              with ⟨result, w2, rolled, finished⟩
            simp only [finish, rolled] at others ⊢
            exact belated_of_over numbered finished before instant (farewell_cases w') others
        | @ran result instant' under' late2 =>
            have whole := instant.append (.singleton instant')
            cases result with
            | error e =>
                rcases under'.rollback
                  (rfl : (withSession ⟨scope, .live session⟩ (rules.move session sql)).phase = _)
                  with ⟨result, w2, rolled, finished⟩
                simp only [finish, rolled] at others ⊢
                exact belated_of_over numbered finished (List.prefix_append _ _) whole
                  (farewell_cases _) others
            | ok count =>
                rcases commit_late under' late2
                  (rfl : (withSession ⟨scope, .live session⟩ (rules.move session sql)).phase = _)
                  with ⟨run, rest, quick, part, farewell, spent, stopped⟩
                simp only [finish_of_ok] at others ⊢
                refine (belated_of_opened numbered ?_ ((List.prefix_append_right_inj _).mpr part)
                  (whole.append quick) farewell others ?_).map (fun _ => count)
                · rw [spent.log, Rules.transcript_sql]
                  rfl
                · intro slow
                  apply stopped
                  rcases List.prefix_cons_iff.mp part with none | ⟨more, rfl, nothing⟩
                  · exact none
                  · cases List.prefix_nil.mp nothing
                    exact absurd (whole.append quick) slow

end Calls

end Transaction
end ScopedSql
